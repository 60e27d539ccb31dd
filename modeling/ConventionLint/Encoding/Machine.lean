import ConventionLint.Text.Utf8

/-! Decoders that read one byte at a time and keep in mind what they are waiting for. A byte that does
not fit ends what has begun, and what can stand alone stands alone after it. -/

namespace ConventionLint.Encoding
open ConventionLint.Text (Bytes)

structure Machine (σ : Type) where
  start : σ
  step : σ → UInt8 → List Char × σ
  finish : σ → List Char

namespace Machine

def decodeFrom (m : Machine σ) : σ → Bytes → List Char
  | s, [] => m.finish s
  | s, b :: bs =>
    let (out, s) := m.step s b
    out ++ decodeFrom m s bs

def decode (m : Machine σ) (bs : Bytes) : List Char := m.decodeFrom m.start bs

end Machine

def isWithin (lower upper b : UInt8) : Bool := lower ≤ b && b ≤ upper

def isAscii (b : UInt8) : Bool := b < 0x80

def asciiChar (b : UInt8) : Char := Char.ofNat b.toNat

def faultBefore (b : UInt8) : List Char :=
  Text.replacement :: if isAscii b then [asciiChar b] else []

end ConventionLint.Encoding
