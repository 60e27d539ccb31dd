import ConventionLint.Text.CharClass
import ConventionLint.Text.Number

/-! Texts between double quotes, such that each character can be told from the others. Line breaks,
tabs, zero, the quote itself and the backslash have short escapes; all else that does not stand alone is
written by its number. -/

namespace ConventionLint.Text.Quoted

def shortHex (width n : Nat) : List Char :=
  match (hexOf width n).dropWhile (· == '0') with
  | [] => ['0']
  | digits => digits

def numbered (c : Char) : List Char := "\\u\x7b".toList ++ shortHex 6 c.toNat ++ ['\x7d']

def encodeChar (c : Char) : List Char :=
  match c with
  | '"' => ['\\', '"']
  | '\\' => ['\\', '\\']
  | '\n' => ['\\', 'n']
  | '\r' => ['\\', 'r']
  | '\t' => ['\\', 't']
  | '\x00' => ['\\', '0']
  | _ => if standsAlone c then [c] else numbered c

def encode (cs : List Char) : List Char := '"' :: cs.flatMap encodeChar ++ ['"']

def ofString (s : String) : String := String.ofList (encode s.toList)

end ConventionLint.Text.Quoted
