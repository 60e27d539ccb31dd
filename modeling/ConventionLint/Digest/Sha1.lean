import ConventionLint.Text.Number
import ConventionLint.Text.Utf8

/-! The SHA-1 digest of a byte string and its text of forty hexadecimal digits. No property of the
digest is claimed beyond its length. -/

namespace ConventionLint.Digest
open ConventionLint.Text (Bytes)

def bigEndian (width : Nat) (n : Nat) : Bytes :=
  (List.range width).reverse.map fun i => UInt8.ofNat (n / Nat.pow 256 i % 256)

def padded (message : Bytes) : Bytes :=
  let zeros := (119 - message.length % 64) % 64
  message ++ [0x80] ++ List.replicate zeros 0 ++ bigEndian 8 (message.length * 8)

def wordsOf : Bytes → List UInt32
  | a :: b :: c :: d :: rest =>
    (UInt32.ofNat (((a.toNat * 256 + b.toNat) * 256 + c.toNat) * 256 + d.toNat)) :: wordsOf rest
  | _ => []

def rotateLeft (x : UInt32) (n : UInt32) : UInt32 := (x <<< n) ||| (x >>> (32 - n))

structure Chaining where
  a : UInt32
  b : UInt32
  c : UInt32
  d : UInt32
  e : UInt32
  deriving DecidableEq, Repr

def Chaining.initial : Chaining :=
  ⟨0x67452301, 0xEFCDAB89, 0x98BADCFE, 0x10325476, 0xC3D2E1F0⟩

/-- The schedule of eighty words, newest first, from the last sixteen of them. -/
def extend : Nat → List UInt32 → List UInt32
  | 0, ws => ws
  | n + 1, ws =>
    let word := rotateLeft (ws.getD 2 0 ^^^ ws.getD 7 0 ^^^ ws.getD 13 0 ^^^ ws.getD 15 0) 1
    extend n (word :: ws)

def mix (round : Nat) (h : Chaining) : UInt32 × UInt32 :=
  if round < 20 then ((h.b &&& h.c) ||| (~~~h.b &&& h.d), 0x5A827999)
  else if round < 40 then (h.b ^^^ h.c ^^^ h.d, 0x6ED9EBA1)
  else if round < 60 then ((h.b &&& h.c) ||| (h.b &&& h.d) ||| (h.c &&& h.d), 0x8F1BBCDC)
  else (h.b ^^^ h.c ^^^ h.d, 0xCA62C1D6)

def roundsFrom : Nat → Chaining → List UInt32 → Chaining
  | _, h, [] => h
  | round, h, w :: ws =>
    let (f, k) := mix round h
    let next := rotateLeft h.a 5 + f + h.e + k + w
    roundsFrom (round + 1) ⟨next, h.a, rotateLeft h.b 30, h.c, h.d⟩ ws

def compress (h : Chaining) (block : List UInt32) : Chaining :=
  let r := roundsFrom 0 h (extend 64 block.reverse).reverse
  ⟨h.a + r.a, h.b + r.b, h.c + r.c, h.d + r.d, h.e + r.e⟩

def compressAll : Nat → Chaining → List UInt32 → Chaining
  | 0, h, _ => h
  | n + 1, h, ws => if ws.isEmpty then h else compressAll n (compress h (ws.take 16)) (ws.drop 16)

def sha1 (message : Bytes) : Chaining :=
  let ws := wordsOf (padded message)
  compressAll ws.length Chaining.initial ws

def sha1Hex (message : Bytes) : List Char :=
  let h := sha1 message
  [h.a, h.b, h.c, h.d, h.e].flatMap fun w => Text.hexOf 8 w.toNat

theorem hexOf_length (width n : Nat) : (Text.hexOf width n).length = width := by
  induction width generalizing n with
  | zero => rfl
  | succ width ih => simp [Text.hexOf, ih]

theorem sha1Hex_length (message : Bytes) : (sha1Hex message).length = 40 := by
  simp [sha1Hex, hexOf_length]

end ConventionLint.Digest
