import ConventionLint.Text.Binary64
import ConventionLint.Text.Cut

/-! The values of literals and how they are read from their tokens. An escape that is not known, or
whose digits do not name a character, stays as it is written. -/

namespace ConventionLint.Tree

inductive Literal where
  | str (value : String)
  | bytes (value : String)
  | int (value : Int)
  | float (bits : Nat)
  | bool (value : Bool)
  | none
  | ellipsis
  deriving DecidableEq, Repr

def Literal.truthy : Literal → Bool
  | .str s => !s.isEmpty
  | .bytes s => !s.isEmpty
  | .int i => i != 0
  | .float bits => !Text.Binary64.isZero bits
  | .bool b => b
  | .none => false
  | .ellipsis => true

def Literal.str? : Literal → Option String
  | .str s => some s
  | _ => Option.none

def Literal.int? : Literal → Option Int
  | .int i => some i
  | _ => Option.none

structure StringToken where
  mark : List Char
  body : List Char
  deriving DecidableEq, Repr

namespace StringToken

def marked (letters : List Char) (t : StringToken) : Bool := t.mark.any letters.contains

def isFormat (t : StringToken) : Bool := t.marked ['f', 'F']

def isBytes (t : StringToken) : Bool := t.marked ['b', 'B']

def isRaw (t : StringToken) : Bool := t.marked ['r', 'R']

def isQuote (c : Char) : Bool := c == '\'' || c == '"'

def quotes : List Char → List Char
  | a :: b :: c :: _ => if a = b ∧ b = c then [a, b, c] else [a]
  | a :: _ => [a]
  | [] => []

def dropTail? (tail cs : List Char) : Option (List Char) :=
  (Text.dropHead? tail.reverse cs.reverse).map List.reverse

def split? (token : List Char) : Option StringToken := do
  let mark := token.takeWhile fun c => !isQuote c
  let quoted := token.dropWhile fun c => !isQuote c
  if quoted.isEmpty then Option.none
  else
    let q := quotes quoted
    let body ← dropTail? q (quoted.drop q.length)
    return ⟨mark, body⟩

end StringToken

def scalar? (n : Nat) : Option Char := if n.isValidChar then some (Char.ofNat n) else Option.none

/-- The character that hexadecimal digits name. A plus sign before them is allowed. -/
def hexScalar? (digits : List Char) : Option Char := Text.bounded? 16 (Text.pow2 32) digits >>= scalar?

def escapeWidth? : Char → Option Nat
  | 'x' => some 2
  | 'u' => some 4
  | 'U' => some 8
  | _ => Option.none

def simpleEscape? : Char → Option (List Char)
  | '\n' => some []
  | 'n' => some ['\n']
  | 't' => some ['\t']
  | 'r' => some ['\r']
  | '0' => some ['\x00']
  | '\\' => some ['\\']
  | '\'' => some ['\'']
  | '"' => some ['"']
  | _ => Option.none

def unescapeBounded : Nat → List Char → List Char
  | 0, _ => []
  | _, [] => []
  | n + 1, '\\' :: c :: cs =>
    match simpleEscape? c, escapeWidth? c with
    | some text, _ => text ++ unescapeBounded n cs
    | Option.none, some width =>
      let digits := cs.take width
      match hexScalar? digits with
      | some ch => ch :: unescapeBounded n (cs.drop width)
      | Option.none => '\\' :: c :: digits ++ unescapeBounded n (cs.drop width)
    | Option.none, Option.none => '\\' :: c :: unescapeBounded n cs
  | n + 1, c :: cs => c :: unescapeBounded n cs

def unescape (body : List Char) : List Char := unescapeBounded body.length body

def stringValue? (token : List Char) : Option (List Char × Bool) := do
  let t ← StringToken.split? token
  return (if t.isRaw then t.body else unescape t.body, t.isBytes)

def withoutUnderscores (token : List Char) : List Char := token.filter (· ≠ '_')

/-- The value of an integer token that is below `2 ^ 63`; a suffix makes it no integer. -/
def integerValue? (token : List Char) : Option Nat :=
  let bound := Text.pow2 63
  match (withoutUnderscores token).map Char.toLower with
  | '0' :: 'x' :: digits => Text.bounded? 16 bound digits
  | '0' :: 'o' :: digits => Text.bounded? 8 bound digits
  | '0' :: 'b' :: digits => Text.bounded? 2 bound digits
  | digits => Text.bounded? 10 bound digits

def floatValue? (token : List Char) : Option Nat :=
  (Text.decimal? (withoutUnderscores token)).map Text.Binary64.ofDecimal

end ConventionLint.Tree
