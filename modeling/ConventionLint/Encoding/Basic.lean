import ConventionLint.Encoding.Cookie
import ConventionLint.Encoding.Gb18030
import ConventionLint.Encoding.Japanese
import ConventionLint.Encoding.Label
import ConventionLint.Encoding.Utf16

/-! How the bytes of a source become its text. A mark at the beginning is dropped, and a comment may
declare the encoding; without one, or with one that is not known, it is UTF-8. -/

namespace ConventionLint.Encoding
open ConventionLint.Text (Bytes)

def userDefinedChar (b : UInt8) : Char :=
  if b < 0x80 then Char.ofNat b.toNat else Char.ofNat (0xF780 + (b.toNat - 0x80))

def Codec.decode : Codec → Bytes → List Char
  | .utf8, bs => Text.Utf8.decode bs
  | .table e, bs => e.decode bs
  | .gbk, bs => Gb18030.decode bs
  | .big5, bs => DoubleByte.big5.decode bs
  | .eucJp, bs => EucJp.decode bs
  | .iso2022Jp, bs => Iso2022Jp.decode bs
  | .shiftJis, bs => DoubleByte.shiftJis.decode bs
  | .eucKr, bs => DoubleByte.eucKr.decode bs
  | .replacement, bs => if bs.isEmpty then [] else [Text.replacement]
  | .utf16be, bs => Utf16.decode true bs
  | .utf16le, bs => Utf16.decode false bs
  | .userDefined, bs => bs.map userDefinedChar

def withoutMark : Bytes → Bytes
  | 0xEF :: 0xBB :: 0xBF :: rest => rest
  | bs => bs

structure Decoded where
  text : List Char
  label : String
  deriving DecidableEq, Repr

def decode (source : Bytes) : Decoded :=
  let source := withoutMark source
  let label := (Cookie.declared? source).getD "utf-8"
  ⟨((Codec.ofLabel? label).getD .utf8).decode source, label⟩

end ConventionLint.Encoding
