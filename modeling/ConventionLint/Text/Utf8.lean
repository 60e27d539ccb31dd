/-! UTF-8 with replacement of ill-formed input. Decoding follows the encoding standard for the web:
each maximal ill-formed part becomes one U+FFFD. A byte order mark is not treated apart. -/

namespace ConventionLint.Text

abbrev Bytes := List UInt8

def replacement : Char := '\uFFFD'

namespace Utf8

def encode (cs : List Char) : Bytes := cs.flatMap String.utf8EncodeChar

def size : List Char → Nat
  | [] => 0
  | c :: cs => c.utf8Size + size cs

def dropBytes : Nat → List Char → List Char
  | 0, cs => cs
  | _, [] => []
  | n + 1, c :: cs => dropBytes (n + 1 - c.utf8Size) cs

def takeBytes : Nat → List Char → List Char
  | _, [] => []
  | n, c :: cs => if c.utf8Size ≤ n then c :: takeBytes (n - c.utf8Size) cs else []

def slice (start stop : Nat) (cs : List Char) : List Char :=
  takeBytes (stop - start) (dropBytes start cs)

/-- A sequence that has begun: `needed` more bytes, the next one between `lower` and `upper`. -/
structure Pending where
  needed : Nat
  code : Nat
  lower : Nat
  upper : Nat
  deriving DecidableEq, Repr

inductive Lead where
  | char (c : Char)
  | opens (p : Pending)
  | illFormed
  deriving DecidableEq, Repr

def lead (b : UInt8) : Lead :=
  let n := b.toNat
  if n < 0x80 then .char (Char.ofNat n)
  else if n < 0xC2 then .illFormed
  else if n < 0xE0 then .opens ⟨1, n - 0xC0, 0x80, 0xBF⟩
  else if n < 0xF0 then
    .opens ⟨2, n - 0xE0, if n = 0xE0 then 0xA0 else 0x80, if n = 0xED then 0x9F else 0xBF⟩
  else if n < 0xF5 then
    .opens ⟨3, n - 0xF0, if n = 0xF0 then 0x90 else 0x80, if n = 0xF4 then 0x8F else 0xBF⟩
  else .illFormed

def decodeFrom : Option Pending → Bytes → List Char
  | none, [] => []
  | some _, [] => [replacement]
  | none, b :: bs =>
    match lead b with
    | .char c => c :: decodeFrom none bs
    | .opens p => decodeFrom (some p) bs
    | .illFormed => replacement :: decodeFrom none bs
  | some p, b :: bs =>
    if p.lower ≤ b.toNat ∧ b.toNat ≤ p.upper then
      let code := p.code * 64 + b.toNat % 64
      if p.needed ≤ 1 then Char.ofNat code :: decodeFrom none bs
      else decodeFrom (some ⟨p.needed - 1, code, 0x80, 0xBF⟩) bs
    else
      match lead b with
      | .char c => replacement :: c :: decodeFrom none bs
      | .opens q => replacement :: decodeFrom (some q) bs
      | .illFormed => replacement :: replacement :: decodeFrom none bs

def decode (bs : Bytes) : List Char := decodeFrom none bs

/-- The text of well-formed bytes: nothing was replaced if the same bytes come out again. -/
def decode? (bs : Bytes) : Option (List Char) :=
  let cs := decode bs
  if encode cs == bs then some cs else none

end Utf8

end ConventionLint.Text
