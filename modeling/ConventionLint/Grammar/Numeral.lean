/-! The extent of number tokens: the longest reading as an integer or a float at the head of a text.
Single underscores may separate digits; the value is not computed here. -/

namespace ConventionLint.Grammar.Numeral

def groupsFrom : Bool → List Char → Nat
  | _, [] => 0
  | afterDigit, c :: cs =>
    if c.isDigit then 1 + groupsFrom true cs
    else if c = '_' ∧ afterDigit then 1 + groupsFrom false cs
    else 0

def groups (cs : List Char) : Nat := groupsFrom false cs

def spaced (isDigit : Char → Bool) : List Char → Nat
  | [] => 0
  | '_' :: c :: cs => if isDigit c then 2 + spaced isDigit cs else 0
  | c :: cs => if isDigit c then 1 + spaced isDigit cs else 0

def suffixed (allowed : List Char) (n : Nat) (cs : List Char) : Nat :=
  match cs.drop n with
  | c :: _ => if allowed.contains c then n + 1 else n
  | [] => n

def based? (marks : List Char) (isDigit : Char → Bool) : List Char → Option Nat
  | '0' :: m :: cs =>
    if marks.contains m then
      let n := spaced isDigit cs
      if n = 0 then none else some (suffixed ['l', 'L'] (n + 2) ('0' :: m :: cs))
    else none
  | _ => none

def isHexDigit (c : Char) : Bool :=
  c.isDigit || ('a' ≤ c && c ≤ 'f') || ('A' ≤ c && c ≤ 'F')

def integer? (cs : List Char) : Option Nat :=
  (based? ['x', 'X'] isHexDigit cs).or <|
  (based? ['o', 'O'] (fun c => '0' ≤ c && c ≤ '7') cs).or <|
  (based? ['b', 'B'] (fun c => c == '0' || c == '1') cs).or <|
    let n := groups cs
    if n = 0 then none else some (suffixed ['l', 'L', 'j', 'J'] n cs)

def exponent : List Char → Nat
  | e :: cs =>
    if e = 'e' ∨ e = 'E' then
      let sign := match cs with
        | '+' :: _ => 1
        | '-' :: _ => 1
        | _ => 0
      let n := groups (cs.drop sign)
      if n = 0 then 0 else 1 + sign + n
    else 0
  | [] => 0

def float? (cs : List Char) : Option Nat :=
  let whole := groups cs
  let mantissa := match cs.drop whole with
    | '.' :: rest =>
      let fraction := groups rest
      if whole = 0 ∧ fraction = 0 then 0 else whole + 1 + fraction
    | _ => 0
  let body :=
    if mantissa = 0 then
      if whole = 0 then 0
      else
        let e := exponent (cs.drop whole)
        if e = 0 then 0 else whole + e
    else mantissa + exponent (cs.drop mantissa)
  if body = 0 then none else some (suffixed ['j', 'J'] body cs)

end ConventionLint.Grammar.Numeral
