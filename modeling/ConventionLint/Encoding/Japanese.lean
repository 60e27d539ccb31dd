import ConventionLint.Encoding.DoubleByte
import ConventionLint.Encoding.Index
import ConventionLint.Encoding.Machine

/-! Two Japanese encodings. One has up to three bytes for each character: two for those of the first set, three for
those of the second one, and two with a special lead for the syllables of half width. The other one changes its
meaning by escape sequences, and two of these without a character between them are a fault. -/

namespace ConventionLint.Encoding.EucJp
open ConventionLint.Text (Bytes)

inductive Waiting where
  | nothing
  | syllable
  | second
  | trail (index : Index) (lead : UInt8)
  deriving DecidableEq, Repr

def isHigh (b : UInt8) : Bool := isWithin 0xA1 0xFE b

def number (lead trail : UInt8) : Nat := (lead.toNat - 0xA1) * 94 + (trail.toNat - 0xA1)

def fresh (b : UInt8) : List Char × Waiting :=
  if isAscii b then ([asciiChar b], .nothing)
  else if b == 0x8E then ([], .syllable)
  else if b == 0x8F then ([], .second)
  else if isHigh b then ([], .trail .jis0208 b)
  else ([Text.replacement], .nothing)

def step : Waiting → UInt8 → List Char × Waiting
  | .nothing, b => fresh b
  | .syllable, b =>
    (if isWithin 0xA1 0xDF b then [DoubleByte.halfWidth b] else faultBefore b, .nothing)
  | .second, b => if isHigh b then ([], .trail .jis0212 b) else (faultBefore b, .nothing)
  | .trail index lead, b =>
    match (if isHigh b then index.get? (number lead b) else none) with
    | some c => ([c], .nothing)
    | none => (faultBefore b, .nothing)

def finish : Waiting → List Char
  | .nothing => []
  | _ => [Text.replacement]

def decode (bs : Bytes) : List Char := (Machine.mk .nothing step finish).decode bs

end ConventionLint.Encoding.EucJp

namespace ConventionLint.Encoding.Iso2022Jp
open ConventionLint.Text (Bytes)

inductive Mode where
  | ascii | roman | syllables | pairs
  deriving DecidableEq, Repr

inductive Waiting where
  | character
  | trail (lead : UInt8)
  /-- An escape sequence has begun; with its second byte, if that is known. -/
  | escape (second : Option UInt8)
  deriving DecidableEq, Repr

structure State where
  mode : Mode
  waiting : Waiting
  hasJustChanged : Bool
  deriving DecidableEq, Repr

def escapeByte : UInt8 := 0x1B

def single? : Mode → UInt8 → Option Char
  | .ascii, b => if isAscii b && b != 0x0E && b != 0x0F then some (asciiChar b) else none
  | .roman, b =>
    if b == 0x5C then some '\u00A5'
    else if b == 0x7E then some '\u203E'
    else if isAscii b && b != 0x0E && b != 0x0F then some (asciiChar b) else none
  | .syllables, b =>
    if isWithin 0x21 0x5F b then some (Char.ofNat (0xFF61 + (b.toNat - 0x21))) else none
  | .pairs, _ => none

def isPart (b : UInt8) : Bool := isWithin 0x21 0x7E b

def fresh (mode : Mode) (changed : Bool) (b : UInt8) : List Char × State :=
  if b == escapeByte then ([], ⟨mode, .escape none, changed⟩)
  else if mode == .pairs && isPart b then ([], ⟨mode, .trail b, false⟩)
  else ([(single? mode b).getD Text.replacement], ⟨mode, .character, false⟩)

def second (mode : Mode) (changed : Bool) (lead b : UInt8) : List Char × State :=
  if b == escapeByte then ([Text.replacement], ⟨mode, .escape none, changed⟩)
  else
    let number := (lead.toNat - 0x21) * 94 + (b.toNat - 0x21)
    let found := if isPart b then Index.jis0208.get? number else none
    ([found.getD Text.replacement], ⟨mode, .character, changed⟩)

def modeOf? (second third : UInt8) : Option Mode :=
  match second.toNat, third.toNat with
  | 0x28, 0x42 => some .ascii
  | 0x28, 0x4A => some .roman
  | 0x28, 0x49 => some .syllables
  | 0x24, 0x40 | 0x24, 0x42 => some .pairs
  | _, _ => none

def resume (mode : Mode) (second : Option UInt8) (b : UInt8) : List Char × State :=
  match second with
  | none =>
    let (out, s) := fresh mode false b
    (Text.replacement :: out, s)
  | some a =>
    let (out, s) := fresh mode false a
    let (more, s) := match s.waiting with
      | .trail lead => Iso2022Jp.second mode s.hasJustChanged lead b
      | _ => fresh mode s.hasJustChanged b
    (Text.replacement :: out ++ more, s)

def step (s : State) (b : UInt8) : List Char × State :=
  match s.waiting with
  | .character => fresh s.mode s.hasJustChanged b
  | .trail lead => second s.mode s.hasJustChanged lead b
  | .escape none =>
    if b == 0x24 || b == 0x28 then ([], ⟨s.mode, .escape (some b), s.hasJustChanged⟩)
    else resume s.mode none b
  | .escape (some a) =>
    match modeOf? a b with
    | some mode => (if s.hasJustChanged then [Text.replacement] else [], ⟨mode, .character, true⟩)
    | none => resume s.mode (some a) b

/-- The bytes of a sequence that is not complete at the end are read again. -/
def finish (s : State) : List Char :=
  match s.waiting with
  | .character => []
  | .trail _ | .escape none => [Text.replacement]
  | .escape (some a) =>
    let (out, s) := fresh s.mode false a
    Text.replacement :: out ++ match s.waiting with
      | .trail _ => [Text.replacement]
      | _ => []

def decode (bs : Bytes) : List Char :=
  (Machine.mk ⟨.ascii, .character, false⟩ step finish).decode bs

end ConventionLint.Encoding.Iso2022Jp
