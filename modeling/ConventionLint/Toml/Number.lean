import ConventionLint.Text.Binary64
import ConventionLint.Toml.Scan

/-! Integers and floats of TOML. Digits may be parted by single underscores. Integers fit into 64 bits;
a float is the binary64 number next to what is written, and too great a positive one is a fault. -/

namespace ConventionLint.Toml

def wellParted : List Char → Bool
  | [] => false
  | cs => (Text.splitBy (· == '_') cs).all fun piece => !piece.isEmpty

def digitRun (isDigit : Char → Bool) : Scan (List Char) := do
  let run ← Scan.takeWhile fun c => isDigit c || c == '_'
  if wellParted run then return run.filter (· != '_') else Scan.fail

def wholePart : Scan (List Char) := do
  let digits ← digitRun Char.isDigit
  if digits.head? == some '0' && digits.length != 1 then Scan.fail else return digits

def sign : Scan Bool := do
  match ← Scan.peek with
  | some '-' => do
    let _ ← Scan.next
    return true
  | some '+' => do
    let _ ← Scan.next
    return false
  | _ => return false

def based (letter : Char) (base : Nat) : Scan Int := do
  Scan.word ['0', letter]
  let digits ← digitRun fun c => (Text.digitValue? base c).isSome
  match Text.bounded? base (Text.pow2 63) digits with
  | some n => return n
  | none => Scan.fail

def decimalInteger : Scan Int := do
  let negative ← sign
  match Text.natural? 10 (← wholePart) with
  | none => Scan.fail
  | some n =>
    if negative then
      if n ≤ Text.pow2 63 then return -(n : Int) else Scan.fail
    else if n < Text.pow2 63 then return n
    else Scan.fail

def integer : Scan Int :=
  Scan.orElse (based 'x' 16) (Scan.orElse (based 'o' 8) (Scan.orElse (based 'b' 2) decimalInteger))

def fraction : Scan (List Char) := do
  let _ ← Scan.char '.'
  return '.' :: (← digitRun Char.isDigit)

def exponentSign : Scan (List Char) := do
  if ← sign then return ['-'] else return []

def exponent : Scan (List Char) := do
  let _ ← Scan.satisfy fun c => c == 'e' || c == 'E'
  let s ← exponentSign
  return 'e' :: s ++ (← digitRun Char.isDigit)

def floatTail : Scan (List Char) := do
  match ← Scan.optional fraction with
  | none => exponent
  | some f => return f ++ ((← Scan.optional exponent).getD [])

def signed (negative : Bool) (bits : Nat) : Nat :=
  if negative then bits + Text.Binary64.sign else bits

def decimalFloat : Scan Nat := do
  let negative ← sign
  let whole ← wholePart
  let tail ← floatTail
  match Text.decimal? (whole ++ tail) with
  | none => Scan.fail
  | some d =>
    let bits := Text.Binary64.ofDecimal d
    if bits = Text.Binary64.infinity ∧ !negative then Scan.fail else return signed negative bits

def specialFloat : Scan Nat := do
  let negative ← sign
  match ← Scan.optional (Scan.word "inf".toList) with
  | some _ => return signed negative Text.Binary64.infinity
  | none => do
    Scan.word "nan".toList
    return signed negative Text.Binary64.notANumber

def float : Scan Nat := Scan.orElse decimalFloat specialFloat

end ConventionLint.Toml
