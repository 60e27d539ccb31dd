import ConventionLint.Digest.Sha1
import ConventionLint.Text.Cut

/-! Texts that carry the digest of all that stands before their last line in that line. The line is made from a
template in which a pair of braces stands for the digest. Of the line only the first forty hexadecimal digits in a
row count, and the last byte of a text counts for nothing. -/

namespace ConventionLint.Storage.Sealed
open ConventionLint.Text (Bytes)

def defaultTemplate : List Char := "# \x7b\x7d".toList

def mark : List Char := "\x7b\x7d".toList

def withNewline (text : List Char) : List Char :=
  if text.getLast? = some '\n' then text else text ++ ['\n']

def line (body template : List Char) : List Char :=
  Text.replaceFirst mark (Digest.sha1Hex (Text.Utf8.encode body)) template

def render (text template : List Char) : List Char :=
  let body := withNewline text
  body ++ line body template ++ ['\n']

def newline : UInt8 := 10

/-- The content before the last line, and that line; the last byte belongs to the line whatever it
is. -/
def split? (bs : Bytes) : Option (Bytes × Bytes) :=
  let last := bs.dropLast.reverse.takeWhile (· ≠ newline)
  if last.length < bs.length - 1 then
    let size := bs.length - 1 - last.length
    some (bs.take size, bs.drop size)
  else none

def isHexDigit (b : UInt8) : Bool := (48 ≤ b && b ≤ 57) || (97 ≤ b && b ≤ 102)

def digest? : Bytes → Option Bytes
  | [] => none
  | b :: bs =>
    let run := (b :: bs).take 40
    if run.length = 40 ∧ run.all isHexDigit then some run else digest? bs

def verify (bs : Bytes) : Bool :=
  match split? bs with
  | none => false
  | some (body, last) => digest? last == some (Text.Utf8.encode (Digest.sha1Hex body))

end ConventionLint.Storage.Sealed
