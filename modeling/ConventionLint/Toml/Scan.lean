import ConventionLint.Text.Cut

/-! Reading a text from the left. A reader gives a value and the rest of the text, or it fails; of two
readers the second one starts where the first one failed. -/

namespace ConventionLint.Toml

abbrev Scan := StateT (List Char) Option

namespace Scan

def fail : Scan α := fun _ => none

def orElse (p q : Scan α) : Scan α := fun cs =>
  match p cs with
  | some r => some r
  | none => q cs

def peek : Scan (Option Char) := fun cs => some (cs.head?, cs)

def next : Scan Char
  | c :: cs => some (c, cs)
  | [] => none

def satisfy (p : Char → Bool) : Scan Char
  | c :: cs => if p c then some (c, cs) else none
  | [] => none

def char (c : Char) : Scan Char := satisfy (· == c)

def word (w : List Char) : Scan Unit := fun cs => (Text.dropHead? w cs).map fun rest => ((), rest)

def takeWhile (p : Char → Bool) : Scan (List Char) := fun cs =>
  some (cs.takeWhile p, cs.dropWhile p)

def optional (p : Scan α) : Scan (Option α) := fun cs =>
  match p cs with
  | some (a, rest) => some (some a, rest)
  | none => some (none, cs)

def manyBounded (p : Scan α) : Nat → Scan (List α)
  | 0 => return []
  | n + 1 => do
    match ← optional p with
    | none => return []
    | some a => return a :: (← manyBounded p n)

def many (p : Scan α) : Scan (List α) := fun cs => manyBounded p cs.length cs

def separated (item : Scan α) (separator : Scan β) : Scan (List α) := do
  match ← optional item with
  | none => return []
  | some first =>
    let rest ← many do
      let _ ← separator
      item
    return first :: rest

def exactly (p : Char → Bool) : Nat → Scan (List Char)
  | 0 => return []
  | n + 1 => do
    let c ← satisfy p
    return c :: (← exactly p n)

def atEnd : Scan Unit
  | [] => some ((), [])
  | _ => none

end Scan

def isSpace (c : Char) : Bool := c == ' ' || c == '\t'

def spaces : Scan Unit := do
  let _ ← Scan.takeWhile isSpace

def newline : Scan Unit := Scan.orElse (Scan.word ['\n']) (Scan.word ['\r', '\n'])

def isPrintable (c : Char) : Bool := c == '\t' || (' ' ≤ c && c != '\x7f')

def comment : Scan Unit := do
  let _ ← Scan.char '#'
  let _ ← Scan.takeWhile isPrintable

def blankLines : Scan Unit := do
  spaces
  let _ ← Scan.many do
    let _ ← Scan.optional comment
    newline
    spaces

end ConventionLint.Toml
