/-! White space and lines. Texts are lists of characters here and in all of `ConventionLint.Text`; white
space is meant in the sense of the White_Space property of Unicode. A line ends at a line feed; a carriage
return right before that line feed belongs to the line break, any other one to the line. Lines are numbered
from one. -/

namespace ConventionLint.Text

def isBlank (c : Char) : Bool :=
  let n := c.toNat
  (9 ≤ n && n ≤ 13) || n == 0x20 || n == 0x85 || n == 0xA0 || n == 0x1680 ||
  (0x2000 ≤ n && n ≤ 0x200A) || n == 0x2028 || n == 0x2029 || n == 0x202F || n == 0x205F ||
  n == 0x3000

def trimStart (cs : List Char) : List Char := cs.dropWhile isBlank

def trimEnd (cs : List Char) : List Char := (cs.reverse.dropWhile isBlank).reverse

def trim (cs : List Char) : List Char := trimEnd (trimStart cs)

def allBlank (cs : List Char) : Bool := cs.all isBlank

/-- Pieces that keep their line feed; they concatenate to the text, and none is empty. -/
def segments : List Char → List (List Char)
  | [] => []
  | c :: cs =>
    if c = '\n' then [c] :: segments cs
    else match segments cs with
      | [] => [[c]]
      | piece :: rest => (c :: piece) :: rest

theorem segments_flatten (cs : List Char) : (segments cs).flatten = cs := by
  induction cs with
  | nil => rfl
  | cons c cs ih =>
    simp only [segments]
    split
    · simp [ih]
    · split
      · next h => rw [h] at ih; simp at ih; simp [← ih]
      · next h => rw [h] at ih; simp at ih; simp [ih]

def withoutBreak (piece : List Char) : List Char :=
  match piece.reverse with
  | '\n' :: '\r' :: rest => rest.reverse
  | '\n' :: rest => rest.reverse
  | _ => piece

def lines (cs : List Char) : List (List Char) := (segments cs).map withoutBreak

def numberedLines (cs : List Char) : List (Nat × List Char) :=
  (lines cs).zipIdx 1 |>.map fun (line, n) => (n, line)

end ConventionLint.Text
