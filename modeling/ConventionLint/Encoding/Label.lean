import ConventionLint.Encoding.SingleByte

/-! The encodings of the encoding standard for the web and the labels that name them. -/

namespace ConventionLint.Encoding

inductive Codec where
  | utf8
  | table (e : SingleByte)
  | gbk | big5 | eucJp | iso2022Jp | shiftJis | eucKr
  /-- Nothing is decoded; any content becomes one fault. -/
  | replacement
  | utf16be | utf16le
  | userDefined
  deriving DecidableEq, Repr

namespace Codec
open SingleByte

def labels : List (Codec × List String) :=
  [(.utf8,
    ["unicode-1-1-utf-8", "unicode11utf8", "unicode20utf8", "utf-8", "utf8", "x-unicode20utf8"]),
   (.table ibm866, ["866", "cp866", "csibm866", "ibm866"]),
   (.table iso8859Part2,
    ["csisolatin2", "iso-8859-2", "iso-ir-101", "iso8859-2", "iso88592", "iso_8859-2",
     "iso_8859-2:1987", "l2", "latin2"]),
   (.table iso8859Part3,
    ["csisolatin3", "iso-8859-3", "iso-ir-109", "iso8859-3", "iso88593", "iso_8859-3",
     "iso_8859-3:1988", "l3", "latin3"]),
   (.table iso8859Part4,
    ["csisolatin4", "iso-8859-4", "iso-ir-110", "iso8859-4", "iso88594", "iso_8859-4",
     "iso_8859-4:1988", "l4", "latin4"]),
   (.table iso8859Part5,
    ["csisolatincyrillic", "cyrillic", "iso-8859-5", "iso-ir-144", "iso8859-5", "iso88595",
     "iso_8859-5", "iso_8859-5:1988"]),
   (.table iso8859Part6,
    ["arabic", "asmo-708", "csiso88596e", "csiso88596i", "csisolatinarabic", "ecma-114",
     "iso-8859-6", "iso-8859-6-e", "iso-8859-6-i", "iso-ir-127", "iso8859-6", "iso88596",
     "iso_8859-6", "iso_8859-6:1987"]),
   (.table iso8859Part7,
    ["csisolatingreek", "ecma-118", "elot_928", "greek", "greek8", "iso-8859-7", "iso-ir-126",
     "iso8859-7", "iso88597", "iso_8859-7", "iso_8859-7:1987", "sun_eu_greek"]),
   (.table iso8859Part8,
    ["csiso88598e", "csisolatinhebrew", "hebrew", "iso-8859-8", "iso-8859-8-e", "iso-ir-138",
     "iso8859-8", "iso88598", "iso_8859-8", "iso_8859-8:1988", "visual", "csiso88598i",
     "iso-8859-8-i", "logical"]),
   (.table iso8859Part10,
    ["csisolatin6", "iso-8859-10", "iso-ir-157", "iso8859-10", "iso885910", "l6", "latin6"]),
   (.table iso8859Part13, ["iso-8859-13", "iso8859-13", "iso885913"]),
   (.table iso8859Part14, ["iso-8859-14", "iso8859-14", "iso885914"]),
   (.table iso8859Part15,
    ["csisolatin9", "iso-8859-15", "iso8859-15", "iso885915", "iso_8859-15", "l9"]),
   (.table iso8859Part16, ["iso-8859-16"]),
   (.table koi8r, ["cskoi8r", "koi", "koi8", "koi8-r", "koi8_r"]),
   (.table koi8u, ["koi8-ru", "koi8-u"]),
   (.table macintosh, ["csmacintosh", "mac", "macintosh", "x-mac-roman"]),
   (.table windows874,
    ["dos-874", "iso-8859-11", "iso8859-11", "iso885911", "tis-620", "windows-874"]),
   (.table windows1250, ["cp1250", "windows-1250", "x-cp1250"]),
   (.table windows1251, ["cp1251", "windows-1251", "x-cp1251"]),
   (.table windows1252,
    ["ansi_x3.4-1968", "ascii", "cp1252", "cp819", "csisolatin1", "ibm819", "iso-8859-1",
     "iso-ir-100", "iso8859-1", "iso88591", "iso_8859-1", "iso_8859-1:1987", "l1", "latin1",
     "us-ascii", "windows-1252", "x-cp1252"]),
   (.table windows1253, ["cp1253", "windows-1253", "x-cp1253"]),
   (.table windows1254,
    ["cp1254", "csisolatin5", "iso-8859-9", "iso-ir-148", "iso8859-9", "iso88599", "iso_8859-9",
     "iso_8859-9:1989", "l5", "latin5", "windows-1254", "x-cp1254"]),
   (.table windows1255, ["cp1255", "windows-1255", "x-cp1255"]),
   (.table windows1256, ["cp1256", "windows-1256", "x-cp1256"]),
   (.table windows1257, ["cp1257", "windows-1257", "x-cp1257"]),
   (.table windows1258, ["cp1258", "windows-1258", "x-cp1258"]),
   (.table macCyrillic, ["x-mac-cyrillic", "x-mac-ukrainian"]),
   (.gbk,
    ["chinese", "csgb2312", "csiso58gb231280", "gb2312", "gb_2312", "gb_2312-80", "gbk",
     "iso-ir-58", "x-gbk", "gb18030"]),
   (.big5, ["big5", "big5-hkscs", "cn-big5", "csbig5", "x-x-big5"]),
   (.eucJp, ["cseucpkdfmtjapanese", "euc-jp", "x-euc-jp"]),
   (.iso2022Jp, ["csiso2022jp", "iso-2022-jp"]),
   (.shiftJis,
    ["csshiftjis", "ms932", "ms_kanji", "shift-jis", "shift_jis", "sjis", "windows-31j", "x-sjis"]),
   (.eucKr,
    ["cseuckr", "csksc56011987", "euc-kr", "iso-ir-149", "korean", "ks_c_5601-1987",
     "ks_c_5601-1989", "ksc5601", "ksc_5601", "windows-949"]),
   (.replacement,
    ["csiso2022kr", "hz-gb-2312", "iso-2022-cn", "iso-2022-cn-ext", "iso-2022-kr", "replacement"]),
   (.utf16be, ["unicodefffe", "utf-16be"]),
   (.utf16le,
    ["csunicode", "iso-10646-ucs-2", "ucs-2", "unicode", "unicodefeff", "utf-16", "utf-16le"]),
   (.userDefined, ["x-user-defined"])]

def ofExactLabel? (label : String) : Option Codec :=
  (labels.find? fun e => e.2.contains label).map Prod.fst

def withoutDashes (label : String) : String :=
  String.ofList (label.toList.filter fun c => c ≠ '-' ∧ c ≠ '_')

def ofLabel? (label : String) : Option Codec :=
  match ofExactLabel? label with
  | some c => some c
  | none => ofExactLabel? (withoutDashes label)

end Codec

end ConventionLint.Encoding
