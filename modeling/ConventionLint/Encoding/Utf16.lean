import ConventionLint.Text.Utf8

/-! Encodings of two bytes for each unit. A unit that is half of a pair without its other half, or a
byte left over at the end, becomes U+FFFD. -/

namespace ConventionLint.Encoding.Utf16
open ConventionLint.Text (Bytes)

def units (bigEndian : Bool) : Bytes → List Nat × Bool
  | a :: b :: rest =>
    let unit := if bigEndian then a.toNat * 256 + b.toNat else b.toNat * 256 + a.toNat
    let (us, odd) := units bigEndian rest
    (unit :: us, odd)
  | [_] => ([], true)
  | [] => ([], false)

def isHigh (u : Nat) : Bool := 0xD800 ≤ u && u < 0xDC00

def isLow (u : Nat) : Bool := 0xDC00 ≤ u && u < 0xE000

def pair (high low : Nat) : Char := Char.ofNat (0x10000 + (high - 0xD800) * 0x400 + (low - 0xDC00))

/-- The characters of units; `high` is the first half of a pair that is waiting. What waits at the end
and a byte left over there make up one fault. -/
def decodeUnits (odd : Bool) : Option Nat → List Nat → List Char
  | high, [] => if high.isSome || odd then [Text.replacement] else []
  | none, u :: us =>
    if isHigh u then decodeUnits odd (some u) us
    else if isLow u then Text.replacement :: decodeUnits odd none us
    else Char.ofNat u :: decodeUnits odd none us
  | some h, u :: us =>
    if isLow u then pair h u :: decodeUnits odd none us
    else if isHigh u then Text.replacement :: decodeUnits odd (some u) us
    else Text.replacement :: Char.ofNat u :: decodeUnits odd none us

def decode (bigEndian : Bool) (bs : Bytes) : List Char :=
  let (us, odd) := units bigEndian bs
  decodeUnits odd none us

end ConventionLint.Encoding.Utf16
