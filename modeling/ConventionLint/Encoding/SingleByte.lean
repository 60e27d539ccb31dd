import ConventionLint.Text.Utf8

/-! Encodings with one byte for each character. The lower half is ASCII in all of them; a table gives
the characters of the upper half in order, U+FFFD where a byte means nothing. -/

namespace ConventionLint.Encoding

structure SingleByte where
  upper : String
  deriving DecidableEq, Repr

namespace SingleByte
open ConventionLint.Text (Bytes)

def charOf (upper : Array Char) (b : UInt8) : Char :=
  if b < 0x80 then Char.ofNat b.toNat else upper.getD (b.toNat - 0x80) Text.replacement

def decode (e : SingleByte) (bs : Bytes) : List Char :=
  let upper := e.upper.toList.toArray
  bs.map (charOf upper)

def controls : String := String.ofList ((List.range 32).map fun n => Char.ofNat (0x80 + n))

def ibm866 : SingleByte where
  upper :=
    "АБВГДЕЖЗИЙКЛМНОП" ++
    "РСТУФХЦЧШЩЪЫЬЭЮЯ" ++
    "абвгдежзийклмноп" ++
    "\u2591\u2592\u2593\u2502\u2524\u2561\u2562\u2556\u2555\u2563\u2551\u2557\u255d\u255c\u255b\u2510" ++
    "\u2514\u2534\u252c\u251c\u2500\u253c\u255e\u255f\u255a\u2554\u2569\u2566\u2560\u2550\u256c\u2567" ++
    "\u2568\u2564\u2565\u2559\u2558\u2552\u2553\u256b\u256a\u2518\u250c\u2588\u2584\u258c\u2590\u2580" ++
    "рстуфхцчшщъыьэюя" ++
    "ЁёЄєЇїЎў\u00b0∙\u00b7√\u2116¤\u25a0\u00a0"

def iso8859Part2 : SingleByte where
  upper :=
    controls ++
    "\u00a0Ą\u02d8Ł¤ĽŚ\u00a7\u00a8ŠŞŤŹ\u00adŽŻ" ++
    "\u00b0ą\u02dbł\u00b4ľś\u02c7\u00b8šşťź\u02ddžż" ++
    "ŔÁÂĂÄĹĆÇČÉĘËĚÍÎĎ" ++
    "ĐŃŇÓÔŐÖ×ŘŮÚŰÜÝŢß" ++
    "ŕáâăäĺćçčéęëěíîď" ++
    "đńňóôőö÷řůúűüýţ\u02d9"

def iso8859Part3 : SingleByte where
  upper :=
    controls ++
    "\u00a0Ħ\u02d8£¤\ufffdĤ\u00a7\u00a8İŞĞĴ\u00ad\ufffdŻ" ++
    "\u00b0ħ\u00b2\u00b3\u00b4µĥ\u00b7\u00b8ışğĵ\u00bd\ufffdż" ++
    "ÀÁÂ\ufffdÄĊĈÇÈÉÊËÌÍÎÏ" ++
    "\ufffdÑÒÓÔĠÖ×ĜÙÚÛÜŬŜß" ++
    "àáâ\ufffdäċĉçèéêëìíîï" ++
    "\ufffdñòóôġö÷ĝùúûüŭŝ\u02d9"

def iso8859Part4 : SingleByte where
  upper :=
    controls ++
    "\u00a0ĄĸŖ¤ĨĻ\u00a7\u00a8ŠĒĢŦ\u00adŽ\u00af" ++
    "\u00b0ą\u02dbŗ\u00b4ĩļ\u02c7\u00b8šēģŧŊžŋ" ++
    "ĀÁÂÃÄÅÆĮČÉĘËĖÍÎĪ" ++
    "ĐŅŌĶÔÕÖ×ØŲÚÛÜŨŪß" ++
    "āáâãäåæįčéęëėíîī" ++
    "đņōķôõö÷øųúûüũū\u02d9"

def iso8859Part5 : SingleByte where
  upper :=
    controls ++
    "\u00a0ЁЂЃЄЅІЇЈЉЊЋЌ\u00adЎЏ" ++
    "АБВГДЕЖЗИЙКЛМНОП" ++
    "РСТУФХЦЧШЩЪЫЬЭЮЯ" ++
    "абвгдежзийклмноп" ++
    "рстуфхцчшщъыьэюя" ++
    "\u2116ёђѓєѕіїјљњћќ\u00a7ўџ"

def iso8859Part6 : SingleByte where
  upper :=
    controls ++
    "\u00a0\ufffd\ufffd\ufffd¤\ufffd\ufffd\ufffd\ufffd\ufffd\ufffd\ufffd\u060c\u00ad\ufffd\ufffd" ++
    "\ufffd\ufffd\ufffd\ufffd\ufffd\ufffd\ufffd\ufffd\ufffd\ufffd\ufffd\u061b\ufffd\ufffd\ufffd\u061f" ++
    "\ufffd\u0621\u0622\u0623\u0624\u0625\u0626\u0627\u0628\u0629\u062a\u062b\u062c\u062d\u062e\u062f" ++
    "\u0630\u0631\u0632\u0633\u0634\u0635\u0636\u0637\u0638\u0639\u063a\ufffd\ufffd\ufffd\ufffd\ufffd" ++
    "\u0640\u0641\u0642\u0643\u0644\u0645\u0646\u0647\u0648\u0649\u064a\u064b\u064c\u064d\u064e\u064f" ++
    "\u0650\u0651\u0652\ufffd\ufffd\ufffd\ufffd\ufffd\ufffd\ufffd\ufffd\ufffd\ufffd\ufffd\ufffd\ufffd"

def iso8859Part7 : SingleByte where
  upper :=
    controls ++
    "\u00a0\u2018\u2019£€₯\u00a6\u00a7\u00a8\u00a9\u037a\u00ab¬\u00ad\ufffd\u2015" ++
    "\u00b0±\u00b2\u00b3\u0384\u0385Ά\u00b7ΈΉΊ\u00bbΌ\u00bdΎΏ" ++
    "ΐΑΒΓΔΕΖΗΘΙΚΛΜΝΞΟ" ++
    "ΠΡ\ufffdΣΤΥΦΧΨΩΪΫάέήί" ++
    "ΰαβγδεζηθικλμνξο" ++
    "πρςστυφχψωϊϋόύώ\ufffd"

def iso8859Part8 : SingleByte where
  upper :=
    controls ++
    "\u00a0\ufffd¢£¤¥\u00a6\u00a7\u00a8\u00a9×\u00ab¬\u00ad\u00ae\u00af" ++
    "\u00b0±\u00b2\u00b3\u00b4µ\u00b6\u00b7\u00b8\u00b9÷\u00bb\u00bc\u00bd\u00be\ufffd" ++
    "\ufffd\ufffd\ufffd\ufffd\ufffd\ufffd\ufffd\ufffd\ufffd\ufffd\ufffd\ufffd\ufffd\ufffd\ufffd\ufffd" ++
    "\ufffd\ufffd\ufffd\ufffd\ufffd\ufffd\ufffd\ufffd\ufffd\ufffd\ufffd\ufffd\ufffd\ufffd\ufffd\u2017" ++
    "\u05d0\u05d1\u05d2\u05d3\u05d4\u05d5\u05d6\u05d7\u05d8\u05d9\u05da\u05db\u05dc\u05dd\u05de\u05df" ++
    "\u05e0\u05e1\u05e2\u05e3\u05e4\u05e5\u05e6\u05e7\u05e8\u05e9\u05ea\ufffd\ufffd\u200e\u200f\ufffd"

def iso8859Part10 : SingleByte where
  upper :=
    controls ++
    "\u00a0ĄĒĢĪĨĶ\u00a7ĻĐŠŦŽ\u00adŪŊ" ++
    "\u00b0ąēģīĩķ\u00b7ļđšŧž\u2015ūŋ" ++
    "ĀÁÂÃÄÅÆĮČÉĘËĖÍÎÏ" ++
    "ÐŅŌÓÔÕÖŨØŲÚÛÜÝÞß" ++
    "āáâãäåæįčéęëėíîï" ++
    "ðņōóôõöũøųúûüýþĸ"

def iso8859Part13 : SingleByte where
  upper :=
    controls ++
    "\u00a0\u201d¢£¤\u201e\u00a6\u00a7Ø\u00a9Ŗ\u00ab¬\u00ad\u00aeÆ" ++
    "\u00b0±\u00b2\u00b3\u201cµ\u00b6\u00b7ø\u00b9ŗ\u00bb\u00bc\u00bd\u00beæ" ++
    "ĄĮĀĆÄÅĘĒČÉŹĖĢĶĪĻ" ++
    "ŠŃŅÓŌÕÖ×ŲŁŚŪÜŻŽß" ++
    "ąįāćäåęēčéźėģķīļ" ++
    "šńņóōõö÷ųłśūüżž\u2019"

def iso8859Part14 : SingleByte where
  upper :=
    controls ++
    "\u00a0Ḃḃ£ĊċḊ\u00a7Ẁ\u00a9ẂḋỲ\u00ad\u00aeŸ" ++
    "ḞḟĠġṀṁ\u00b6ṖẁṗẃṠỳẄẅṡ" ++
    "ÀÁÂÃÄÅÆÇÈÉÊËÌÍÎÏ" ++
    "ŴÑÒÓÔÕÖṪØÙÚÛÜÝŶß" ++
    "àáâãäåæçèéêëìíîï" ++
    "ŵñòóôõöṫøùúûüýŷÿ"

def iso8859Part15 : SingleByte where
  upper :=
    controls ++
    "\u00a0\u00a1¢£€¥Š\u00a7š\u00a9ª\u00ab¬\u00ad\u00ae\u00af" ++
    "\u00b0±\u00b2\u00b3Žµ\u00b6\u00b7ž\u00b9º\u00bbŒœŸ\u00bf" ++
    "ÀÁÂÃÄÅÆÇÈÉÊËÌÍÎÏ" ++
    "ÐÑÒÓÔÕÖ×ØÙÚÛÜÝÞß" ++
    "àáâãäåæçèéêëìíîï" ++
    "ðñòóôõö÷øùúûüýþÿ"

def iso8859Part16 : SingleByte where
  upper :=
    controls ++
    "\u00a0ĄąŁ€\u201eŠ\u00a7š\u00a9Ș\u00abŹ\u00adźŻ" ++
    "\u00b0±ČłŽ\u201d\u00b6\u00b7žčș\u00bbŒœŸż" ++
    "ÀÁÂĂÄĆÆÇÈÉÊËÌÍÎÏ" ++
    "ĐŃÒÓÔŐÖŚŰÙÚÛÜĘȚß" ++
    "àáâăäćæçèéêëìíîï" ++
    "đńòóôőöśűùúûüęțÿ"

def koi8r : SingleByte where
  upper :=
    "\u2500\u2502\u250c\u2510\u2514\u2518\u251c\u2524\u252c\u2534\u253c\u2580\u2584\u2588\u258c\u2590" ++
    "\u2591\u2592\u2593⌠\u25a0∙√≈≤≥\u00a0⌡\u00b0\u00b2\u00b7÷" ++
    "\u2550\u2551\u2552ё\u2553\u2554\u2555\u2556\u2557\u2558\u2559\u255a\u255b\u255c\u255d\u255e" ++
    "\u255f\u2560\u2561Ё\u2562\u2563\u2564\u2565\u2566\u2567\u2568\u2569\u256a\u256b\u256c\u00a9" ++
    "юабцдефгхийклмно" ++
    "пярстужвьызшэщчъ" ++
    "ЮАБЦДЕФГХИЙКЛМНО" ++
    "ПЯРСТУЖВЬЫЗШЭЩЧЪ"

def koi8u : SingleByte where
  upper :=
    "\u2500\u2502\u250c\u2510\u2514\u2518\u251c\u2524\u252c\u2534\u253c\u2580\u2584\u2588\u258c\u2590" ++
    "\u2591\u2592\u2593⌠\u25a0∙√≈≤≥\u00a0⌡\u00b0\u00b2\u00b7÷" ++
    "\u2550\u2551\u2552ёє\u2554ії\u2557\u2558\u2559\u255a\u255bґў\u255e" ++
    "\u255f\u2560\u2561ЁЄ\u2563ІЇ\u2566\u2567\u2568\u2569\u256aҐЎ\u00a9" ++
    "юабцдефгхийклмно" ++
    "пярстужвьызшэщчъ" ++
    "ЮАБЦДЕФГХИЙКЛМНО" ++
    "ПЯРСТУЖВЬЫЗШЭЩЧЪ"

def macintosh : SingleByte where
  upper :=
    "ÄÅÇÉÑÖÜáàâäãåçéè" ++
    "êëíìîïñóòôöõúùûü" ++
    "\u2020\u00b0¢£\u00a7\u2022\u00b6ß\u00ae\u00a9\u2122\u00b4\u00a8≠ÆØ" ++
    "∞±≤≥¥µ∂∑∏π∫ªºΩæø" ++
    "\u00bf\u00a1¬√ƒ≈∆\u00ab\u00bb\u2026\u00a0ÀÃÕŒœ" ++
    "\u2013\u2014\u201c\u201d\u2018\u2019÷\u25caÿŸ⁄€\u2039\u203aﬁﬂ" ++
    "\u2021\u00b7\u201a\u201e\u2030ÂÊÁËÈÍÎÏÌÓÔ" ++
    "\uf8ffÒÚÛÙı\u02c6\u02dc\u00af\u02d8\u02d9\u02da\u00b8\u02dd\u02db\u02c7"

def windows874 : SingleByte where
  upper :=
    "€\u0081\u0082\u0083\u0084\u2026\u0086\u0087\u0088\u0089\u008a\u008b\u008c\u008d\u008e\u008f" ++
    "\u0090\u2018\u2019\u201c\u201d\u2022\u2013\u2014\u0098\u0099\u009a\u009b\u009c\u009d\u009e\u009f" ++
    "\u00a0กขฃคฅฆงจฉชซฌญฎฏ" ++
    "ฐฑฒณดตถทธนบปผฝพฟ" ++
    "ภมยรฤลฦวศษสหฬอฮฯ" ++
    "ะ\u0e31าำ\u0e34\u0e35\u0e36\u0e37\u0e38\u0e39\u0e3a\ufffd\ufffd\ufffd\ufffd฿" ++
    "เแโใไๅ\u0e46\u0e47\u0e48\u0e49\u0e4a\u0e4b\u0e4c\u0e4d\u0e4e\u0e4f" ++
    "\u0e50\u0e51\u0e52\u0e53\u0e54\u0e55\u0e56\u0e57\u0e58\u0e59\u0e5a\u0e5b\ufffd\ufffd\ufffd\ufffd"

def windows1250 : SingleByte where
  upper :=
    "€\u0081\u201a\u0083\u201e\u2026\u2020\u2021\u0088\u2030Š\u2039ŚŤŽŹ" ++
    "\u0090\u2018\u2019\u201c\u201d\u2022\u2013\u2014\u0098\u2122š\u203aśťžź" ++
    "\u00a0\u02c7\u02d8Ł¤Ą\u00a6\u00a7\u00a8\u00a9Ş\u00ab¬\u00ad\u00aeŻ" ++
    "\u00b0±\u02dbł\u00b4µ\u00b6\u00b7\u00b8ąş\u00bbĽ\u02ddľż" ++
    "ŔÁÂĂÄĹĆÇČÉĘËĚÍÎĎ" ++
    "ĐŃŇÓÔŐÖ×ŘŮÚŰÜÝŢß" ++
    "ŕáâăäĺćçčéęëěíîď" ++
    "đńňóôőö÷řůúűüýţ\u02d9"

def windows1251 : SingleByte where
  upper :=
    "ЂЃ\u201aѓ\u201e\u2026\u2020\u2021€\u2030Љ\u2039ЊЌЋЏ" ++
    "ђ\u2018\u2019\u201c\u201d\u2022\u2013\u2014\u0098\u2122љ\u203aњќћџ" ++
    "\u00a0ЎўЈ¤Ґ\u00a6\u00a7Ё\u00a9Є\u00ab¬\u00ad\u00aeЇ" ++
    "\u00b0±Ііґµ\u00b6\u00b7ё\u2116є\u00bbјЅѕї" ++
    "АБВГДЕЖЗИЙКЛМНОП" ++
    "РСТУФХЦЧШЩЪЫЬЭЮЯ" ++
    "абвгдежзийклмноп" ++
    "рстуфхцчшщъыьэюя"

def windows1252 : SingleByte where
  upper :=
    "€\u0081\u201aƒ\u201e\u2026\u2020\u2021\u02c6\u2030Š\u2039Œ\u008dŽ\u008f" ++
    "\u0090\u2018\u2019\u201c\u201d\u2022\u2013\u2014\u02dc\u2122š\u203aœ\u009džŸ" ++
    "\u00a0\u00a1¢£¤¥\u00a6\u00a7\u00a8\u00a9ª\u00ab¬\u00ad\u00ae\u00af" ++
    "\u00b0±\u00b2\u00b3\u00b4µ\u00b6\u00b7\u00b8\u00b9º\u00bb\u00bc\u00bd\u00be\u00bf" ++
    "ÀÁÂÃÄÅÆÇÈÉÊËÌÍÎÏ" ++
    "ÐÑÒÓÔÕÖ×ØÙÚÛÜÝÞß" ++
    "àáâãäåæçèéêëìíîï" ++
    "ðñòóôõö÷øùúûüýþÿ"

def windows1253 : SingleByte where
  upper :=
    "€\u0081\u201aƒ\u201e\u2026\u2020\u2021\u0088\u2030\u008a\u2039\u008c\u008d\u008e\u008f" ++
    "\u0090\u2018\u2019\u201c\u201d\u2022\u2013\u2014\u0098\u2122\u009a\u203a\u009c\u009d\u009e\u009f" ++
    "\u00a0\u0385Ά£¤¥\u00a6\u00a7\u00a8\u00a9\ufffd\u00ab¬\u00ad\u00ae\u2015" ++
    "\u00b0±\u00b2\u00b3\u0384µ\u00b6\u00b7ΈΉΊ\u00bbΌ\u00bdΎΏ" ++
    "ΐΑΒΓΔΕΖΗΘΙΚΛΜΝΞΟ" ++
    "ΠΡ\ufffdΣΤΥΦΧΨΩΪΫάέήί" ++
    "ΰαβγδεζηθικλμνξο" ++
    "πρςστυφχψωϊϋόύώ\ufffd"

def windows1254 : SingleByte where
  upper :=
    "€\u0081\u201aƒ\u201e\u2026\u2020\u2021\u02c6\u2030Š\u2039Œ\u008d\u008e\u008f" ++
    "\u0090\u2018\u2019\u201c\u201d\u2022\u2013\u2014\u02dc\u2122š\u203aœ\u009d\u009eŸ" ++
    "\u00a0\u00a1¢£¤¥\u00a6\u00a7\u00a8\u00a9ª\u00ab¬\u00ad\u00ae\u00af" ++
    "\u00b0±\u00b2\u00b3\u00b4µ\u00b6\u00b7\u00b8\u00b9º\u00bb\u00bc\u00bd\u00be\u00bf" ++
    "ÀÁÂÃÄÅÆÇÈÉÊËÌÍÎÏ" ++
    "ĞÑÒÓÔÕÖ×ØÙÚÛÜİŞß" ++
    "àáâãäåæçèéêëìíîï" ++
    "ğñòóôõö÷øùúûüışÿ"

def windows1255 : SingleByte where
  upper :=
    "€\u0081\u201aƒ\u201e\u2026\u2020\u2021\u02c6\u2030\u008a\u2039\u008c\u008d\u008e\u008f" ++
    "\u0090\u2018\u2019\u201c\u201d\u2022\u2013\u2014\u02dc\u2122\u009a\u203a\u009c\u009d\u009e\u009f" ++
    "\u00a0\u00a1¢£₪¥\u00a6\u00a7\u00a8\u00a9×\u00ab¬\u00ad\u00ae\u00af" ++
    "\u00b0±\u00b2\u00b3\u00b4µ\u00b6\u00b7\u00b8\u00b9÷\u00bb\u00bc\u00bd\u00be\u00bf" ++
    "\u05b0\u05b1\u05b2\u05b3\u05b4\u05b5\u05b6\u05b7\u05b8\u05b9\u05ba\u05bb\u05bc\u05bd\u05be\u05bf" ++
    "\u05c0\u05c1\u05c2\u05c3\u05f0\u05f1\u05f2\u05f3\u05f4\ufffd\ufffd\ufffd\ufffd\ufffd\ufffd\ufffd" ++
    "\u05d0\u05d1\u05d2\u05d3\u05d4\u05d5\u05d6\u05d7\u05d8\u05d9\u05da\u05db\u05dc\u05dd\u05de\u05df" ++
    "\u05e0\u05e1\u05e2\u05e3\u05e4\u05e5\u05e6\u05e7\u05e8\u05e9\u05ea\ufffd\ufffd\u200e\u200f\ufffd"

def windows1256 : SingleByte where
  upper :=
    "€\u067e\u201aƒ\u201e\u2026\u2020\u2021\u02c6\u2030\u0679\u2039Œ\u0686\u0698\u0688" ++
    "\u06af\u2018\u2019\u201c\u201d\u2022\u2013\u2014\u06a9\u2122\u0691\u203aœ\u200c\u200d\u06ba" ++
    "\u00a0\u060c¢£¤¥\u00a6\u00a7\u00a8\u00a9\u06be\u00ab¬\u00ad\u00ae\u00af" ++
    "\u00b0±\u00b2\u00b3\u00b4µ\u00b6\u00b7\u00b8\u00b9\u061b\u00bb\u00bc\u00bd\u00be\u061f" ++
    "\u06c1\u0621\u0622\u0623\u0624\u0625\u0626\u0627\u0628\u0629\u062a\u062b\u062c\u062d\u062e\u062f" ++
    "\u0630\u0631\u0632\u0633\u0634\u0635\u0636×\u0637\u0638\u0639\u063a\u0640\u0641\u0642\u0643" ++
    "à\u0644â\u0645\u0646\u0647\u0648çèéêë\u0649\u064aîï" ++
    "\u064b\u064c\u064d\u064eô\u064f\u0650÷\u0651ù\u0652ûü\u200e\u200f\u06d2"

def windows1257 : SingleByte where
  upper :=
    "€\u0081\u201a\u0083\u201e\u2026\u2020\u2021\u0088\u2030\u008a\u2039\u008c\u00a8\u02c7\u00b8" ++
    "\u0090\u2018\u2019\u201c\u201d\u2022\u2013\u2014\u0098\u2122\u009a\u203a\u009c\u00af\u02db\u009f" ++
    "\u00a0\ufffd¢£¤\ufffd\u00a6\u00a7Ø\u00a9Ŗ\u00ab¬\u00ad\u00aeÆ" ++
    "\u00b0±\u00b2\u00b3\u00b4µ\u00b6\u00b7ø\u00b9ŗ\u00bb\u00bc\u00bd\u00beæ" ++
    "ĄĮĀĆÄÅĘĒČÉŹĖĢĶĪĻ" ++
    "ŠŃŅÓŌÕÖ×ŲŁŚŪÜŻŽß" ++
    "ąįāćäåęēčéźėģķīļ" ++
    "šńņóōõö÷ųłśūüżž\u02d9"

def windows1258 : SingleByte where
  upper :=
    "€\u0081\u201aƒ\u201e\u2026\u2020\u2021\u02c6\u2030\u008a\u2039Œ\u008d\u008e\u008f" ++
    "\u0090\u2018\u2019\u201c\u201d\u2022\u2013\u2014\u02dc\u2122\u009a\u203aœ\u009d\u009eŸ" ++
    "\u00a0\u00a1¢£¤¥\u00a6\u00a7\u00a8\u00a9ª\u00ab¬\u00ad\u00ae\u00af" ++
    "\u00b0±\u00b2\u00b3\u00b4µ\u00b6\u00b7\u00b8\u00b9º\u00bb\u00bc\u00bd\u00be\u00bf" ++
    "ÀÁÂĂÄÅÆÇÈÉÊË\u0300ÍÎÏ" ++
    "ĐÑ\u0309ÓÔƠÖ×ØÙÚÛÜƯ\u0303ß" ++
    "àáâăäåæçèéêë\u0301íîï" ++
    "đñ\u0323óôơö÷øùúûüư₫ÿ"

def macCyrillic : SingleByte where
  upper :=
    "АБВГДЕЖЗИЙКЛМНОП" ++
    "РСТУФХЦЧШЩЪЫЬЭЮЯ" ++
    "\u2020\u00b0Ґ£\u00a7\u2022\u00b6І\u00ae\u00a9\u2122Ђђ≠Ѓѓ" ++
    "∞±≤≥іµґЈЄєЇїЉљЊњ" ++
    "јЅ¬√ƒ≈∆\u00ab\u00bb\u2026\u00a0ЋћЌќѕ" ++
    "\u2013\u2014\u201c\u201d\u2018\u2019÷\u201eЎўЏџ\u2116Ёёя" ++
    "абвгдежзийклмноп" ++
    "рстуфхцчшщъыьэю€"

end SingleByte

end ConventionLint.Encoding
