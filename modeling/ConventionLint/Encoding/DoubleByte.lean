import ConventionLint.Encoding.Index
import ConventionLint.Encoding.Machine

/-! Encodings in which a character has one byte or two, and the first one tells which. -/

namespace ConventionLint.Encoding
open ConventionLint.Text (Bytes)

structure DoubleByte where
  single? : UInt8 → Option Char
  isLead : UInt8 → Bool
  pair : UInt8 → UInt8 → List Char

namespace DoubleByte

def fresh (e : DoubleByte) (b : UInt8) : List Char × Option UInt8 :=
  match e.single? b with
  | some c => ([c], none)
  | none => if e.isLead b then ([], some b) else ([Text.replacement], none)

def step (e : DoubleByte) : Option UInt8 → UInt8 → List Char × Option UInt8
  | none, b => e.fresh b
  | some lead, b =>
    match e.pair lead b with
    | [] => (faultBefore b, none)
    | cs => (cs, none)

def finish : Option UInt8 → List Char
  | none => []
  | some _ => [Text.replacement]

def machine (e : DoubleByte) : Machine (Option UInt8) := ⟨none, e.step, finish⟩

def decode (e : DoubleByte) (bs : Bytes) : List Char := e.machine.decode bs

/-- Where a pair stands in rows of a width, for trail bytes from 0x40 on without 0x7F. -/
def number (lead trail width skip : Nat) : Nat :=
  lead * width + (trail - (if trail < 0x7F then 0x40 else skip))

def ascii? (b : UInt8) : Option Char := if isAscii b then some (asciiChar b) else none

def composed : List (Nat × List Char) :=
  [(1133, ['\u00CA', '\u0304']), (1135, ['\u00CA', '\u030C']),
   (1164, ['\u00EA', '\u0304']), (1166, ['\u00EA', '\u030C'])]

def big5 : DoubleByte where
  single? := ascii?
  isLead := isWithin 0x81 0xFE
  pair lead b :=
    if isWithin 0x40 0x7E b || isWithin 0xA1 0xFE b then
      let n := number (lead.toNat - 0x81) b.toNat 157 0x62
      match composed.lookup n with
      | some cs => cs
      | none => (Index.big5.get? n).toList
    else []

def eucKr : DoubleByte where
  single? := ascii?
  isLead := isWithin 0x81 0xFE
  pair lead b :=
    if isWithin 0x41 0xFE b then
      (Index.eucKr.get? ((lead.toNat - 0x81) * 190 + (b.toNat - 0x41))).toList
    else []

def halfWidth (b : UInt8) : Char := Char.ofNat (0xFF61 + (b.toNat - 0xA1))

/-- The numbers from 8836 to 10715 are left to users. -/
def userOrIndexed (n : Nat) : Option Char :=
  if 8836 ≤ n ∧ n ≤ 10715 then some (Char.ofNat (0xE000 + (n - 8836))) else Index.jis0208.get? n

def shiftJis : DoubleByte where
  single? b :=
    if b ≤ 0x80 then some (asciiChar b)
    else if isWithin 0xA1 0xDF b then some (halfWidth b) else none
  isLead b := isWithin 0x81 0x9F b || isWithin 0xE0 0xFC b
  pair lead b :=
    if isWithin 0x40 0x7E b || isWithin 0x80 0xFC b then
      let row := lead.toNat - (if lead < 0xA0 then 0x81 else 0xC1)
      (userOrIndexed (number row b.toNat 188 0x41)).toList
    else []

end DoubleByte

end ConventionLint.Encoding
