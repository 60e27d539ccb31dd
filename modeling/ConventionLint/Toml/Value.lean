import ConventionLint.Text.Number
import ConventionLint.Toml.Scan

/-! Values of TOML documents. Dates, times and both together are checked and kept in one form: a `T` between date and
time, a fraction of at most nine digits without zeros at its end, and a `Z` or a signed offset. -/

namespace ConventionLint.Toml

def field (width least greatest : Nat) : Scan Nat := do
  let digits ← Scan.exactly Char.isDigit width
  match Text.natural? 10 digits with
  | some n => if least ≤ n && n ≤ greatest then return n else Scan.fail
  | none => Scan.fail

def padded (width n : Nat) : List Char :=
  let digits := Nat.toDigits 10 n
  List.replicate (width - digits.length) '0' ++ digits

def isLeapYear (year : Nat) : Bool := year % 4 == 0 && (year % 100 != 0 || year % 400 == 0)

def daysIn (year month : Nat) : Nat :=
  if month = 2 then if isLeapYear year then 29 else 28
  else if month = 4 ∨ month = 6 ∨ month = 9 ∨ month = 11 then 30
  else 31

def date : Scan (List Char) := do
  let year ← field 4 0 9999
  let _ ← Scan.char '-'
  let month ← field 2 1 12
  let _ ← Scan.char '-'
  let day ← field 2 1 (daysIn year month)
  return padded 4 year ++ '-' :: padded 2 month ++ '-' :: padded 2 day

def secondFraction : Scan (List Char) := do
  let _ ← Scan.char '.'
  let digits ← Scan.takeWhile Char.isDigit
  if digits.isEmpty then Scan.fail
  else
    let kept := ((digits.take 9).reverse.dropWhile (· == '0')).reverse
    return if kept.isEmpty then [] else '.' :: kept

def time : Scan (List Char) := do
  let hour ← field 2 0 23
  let _ ← Scan.char ':'
  let minute ← field 2 0 59
  let _ ← Scan.char ':'
  let second ← field 2 0 60
  let rest := (← Scan.optional secondFraction).getD []
  return padded 2 hour ++ ':' :: padded 2 minute ++ ':' :: padded 2 second ++ rest

def universal : Scan (List Char) := do
  let _ ← Scan.satisfy fun c => c == 'Z' || c == 'z'
  return ['Z']

def signedOffset : Scan (List Char) := do
  let s ← Scan.satisfy fun c => c == '+' || c == '-'
  let hour ← field 2 0 23
  let _ ← Scan.char ':'
  let minute ← field 2 0 59
  let s := if hour = 0 ∧ minute = 0 then '+' else s
  return s :: padded 2 hour ++ ':' :: padded 2 minute

def timeOfDate : Scan (List Char) := do
  let _ ← Scan.satisfy fun c => c == 'T' || c == 't' || c == ' '
  let t ← time
  let offset := (← Scan.optional (Scan.orElse universal signedOffset)).getD []
  return 'T' :: t ++ offset

def dateWithTime : Scan (List Char) := do
  let d ← date
  return d ++ ((← Scan.optional timeOfDate).getD [])

def datetime : Scan (List Char) := Scan.orElse dateWithTime time

inductive Value where
  | string (s : String)
  | integer (i : Int)
  | float (bits : Nat)
  | boolean (b : Bool)
  | datetime (text : String)
  | array (items : List Value)
  | table (entries : List (String × Value))
  deriving Repr

abbrev Entries := List (String × Value)

namespace Value

def text? : Value → Option String
  | .string s => some s
  | .datetime s => some s
  | _ => none

def string? : Value → Option String
  | .string s => some s
  | _ => none

def integer? : Value → Option Int
  | .integer i => some i
  | _ => none

def boolean? : Value → Option Bool
  | .boolean b => some b
  | _ => none

def strings? : Value → Option (List String)
  | .array vs => vs.mapM string?
  | _ => none

def isEmptyGroup : Value → Bool
  | .array [] => true
  | .table [] => true
  | _ => false

end Value

def Entries.get? (es : Entries) (key : String) : Option Value :=
  (es.find? fun e => e.1 == key).map Prod.snd

end ConventionLint.Toml
