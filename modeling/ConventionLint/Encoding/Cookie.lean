import ConventionLint.Text.CharClass
import ConventionLint.Text.Cut
import ConventionLint.Text.Utf8

/-! The comment in the first two lines of a source that declares its encoding. Only as much of a line
counts as is well-formed UTF-8. -/

namespace ConventionLint.Encoding.Cookie
open ConventionLint.Text (Bytes Utf8.Pending)

def wellFormed : Option Utf8.Pending → Bytes → List Char
  | _, [] => []
  | none, b :: bs =>
    match Text.Utf8.lead b with
    | .char c => c :: wellFormed none bs
    | .opens p => wellFormed (some p) bs
    | .illFormed => []
  | some p, b :: bs =>
    if p.lower ≤ b.toNat ∧ b.toNat ≤ p.upper then
      let code := p.code * 64 + b.toNat % 64
      if p.needed ≤ 1 then Char.ofNat code :: wellFormed none bs
      else wellFormed (some ⟨p.needed - 1, code, 0x80, 0xBF⟩) bs
    else []

def isLabelChar (c : Char) : Bool := Text.isWord c || c == '-' || c == '.'

def labelAt? (cs : List Char) : Option (List Char) := do
  let rest ← Text.dropHead? "coding".toList cs
  match rest with
  | c :: rest =>
    if c = ':' ∨ c = '=' then
      let label := (rest.dropWhile fun c => c == ' ' || c == '\t').takeWhile isLabelChar
      if label.isEmpty then none else some label
    else none
  | [] => none

def firstLabel? : List Char → Option (List Char)
  | [] => none
  | c :: cs =>
    match labelAt? (c :: cs) with
    | some label => some label
    | none => firstLabel? cs

def ofLine? (line : List Char) : Option String :=
  match line.dropWhile fun c => c == ' ' || c == '\t' || c == '\x0c' with
  | '#' :: rest => (firstLabel? rest).map fun label => String.ofList (label.map Char.toLower)
  | _ => none

def cutLine (bs : Bytes) : Bytes × Bytes :=
  (bs.takeWhile (· ≠ 10), (bs.dropWhile (· ≠ 10)).drop 1)

def declared? (source : Bytes) : Option String :=
  let (first, rest) := cutLine source
  match ofLine? (wellFormed none first) with
  | some label => some label
  | none => ofLine? (wellFormed none (cutLine rest).1)

end ConventionLint.Encoding.Cookie
