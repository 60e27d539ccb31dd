import ConventionLint.Text.Property

/-! Character classes built from the property tables. ASCII is decided without the tables. -/

namespace ConventionLint.Text

def isAlphabetic (c : Char) : Bool :=
  if c.toNat < 128 then c.isAlpha else Property.alphabetic.covers c

def isAlphanumeric (c : Char) : Bool :=
  if c.toNat < 128 then c.isAlphanum
  else Property.alphabetic.covers c || Property.numeric.covers c

def isWord (c : Char) : Bool :=
  if c.toNat < 128 then c.isAlphanum || c == '_'
  else Property.alphabetic.covers c || Property.mark.covers c || Property.decimalDigit.covers c ||
    [0x200C, 0x200D, 0x203F, 0x2040, 0x2054, 0xFE33, 0xFE34, 0xFE4D, 0xFE4E, 0xFE4F, 0xFF3F].contains
      c.toNat

def isIdentifierStart (c : Char) : Bool :=
  if c.toNat < 128 then c.isAlpha || c == '_' else Property.identifierStart.covers c

def isIdentifierContinue (c : Char) : Bool :=
  if c.toNat < 128 then c.isAlphanum || c == '_' else Property.identifierContinue.covers c

def standsAlone (c : Char) : Bool :=
  if c.toNat < 127 then 32 ≤ c.toNat
  else !(Property.invisible.covers c || Property.graphemeExtend.covers c)

end ConventionLint.Text
