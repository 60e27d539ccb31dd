import ConventionLint.Toml.Scan
import ConventionLint.Text.Number

/-! Strings of TOML: with or without escapes, on one line or on several. -/

namespace ConventionLint.Toml

def isHexDigit (c : Char) : Bool := (Text.digitValue? 16 c).isSome

def scalar (width : Nat) : Scan Char := do
  let digits ← Scan.exactly isHexDigit width
  match Text.natural? 16 digits with
  | some n => if n.isValidChar then return Char.ofNat n else Scan.fail
  | none => Scan.fail

def escapeCode : Scan Char := do
  match ← Scan.next with
  | 'b' => return '\x08'
  | 't' => return '\t'
  | 'n' => return '\n'
  | 'f' => return '\x0c'
  | 'r' => return '\r'
  | '"' => return '"'
  | '\\' => return '\\'
  | 'u' => scalar 4
  | 'U' => scalar 8
  | _ => Scan.fail

def escape : Scan (List Char) := do
  let _ ← Scan.char '\\'
  return [← escapeCode]

def plain (excluded : List Char) : Scan (List Char) := do
  return [← Scan.satisfy fun c => isPrintable c && !excluded.contains c]

def oneLine (quote : Char) (piece : Scan (List Char)) : Scan (List Char) := do
  let _ ← Scan.char quote
  let pieces ← Scan.many piece
  let _ ← Scan.char quote
  return pieces.flatten

def hiddenBreak : Scan (List Char) := do
  let _ ← Scan.char '\\'
  spaces
  newline
  let _ ← Scan.takeWhile isSpace
  let _ ← Scan.many do
    newline
    spaces
  return []

def visibleBreak : Scan (List Char) := do
  newline
  return ['\n']

def innerQuotes (quote : Char) : Scan (List Char) := do
  let quotes ← Scan.takeWhile (· == quote)
  if quotes.isEmpty || 2 < quotes.length then Scan.fail else return quotes

/-- Three quotes close a string of several lines; up to two more right before them belong to it. -/
def closingQuotes (quote : Char) : Scan (List Char) := do
  let quotes ← Scan.takeWhile (· == quote)
  if 3 ≤ quotes.length && quotes.length ≤ 5 then return quotes.drop 3 else Scan.fail

def manyLines (quote : Char) (piece : Scan (List Char)) : Scan (List Char) := do
  Scan.word [quote, quote, quote]
  let _ ← Scan.optional newline
  let pieces ← Scan.many (Scan.orElse piece (Scan.orElse visibleBreak (innerQuotes quote)))
  let last ← closingQuotes quote
  return pieces.flatten ++ last

def basicPiece : Scan (List Char) := Scan.orElse (plain ['"', '\\']) escape

def basicString : Scan (List Char) := oneLine '"' basicPiece

def literalString : Scan (List Char) := oneLine '\'' (plain ['\''])

def longBasicString : Scan (List Char) := manyLines '"' (Scan.orElse basicPiece hiddenBreak)

def longLiteralString : Scan (List Char) := manyLines '\'' (plain ['\''])

def quoted : Scan (List Char) :=
  Scan.orElse longBasicString (Scan.orElse longLiteralString (Scan.orElse basicString literalString))

end ConventionLint.Toml
