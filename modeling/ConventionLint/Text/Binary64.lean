import ConventionLint.Text.Number

/-! Decimal fractions and the binary64 numbers next to them, as bit patterns. Rounding is exact: to
the nearest number, a tie to the one with an even last bit, and to infinity beyond the greatest. -/

namespace ConventionLint.Text

structure Decimal where
  digits : Nat
  exponent : Int
  deriving DecidableEq, Repr

namespace Binary64

def infinity : Nat := 2047 * pow2 52

def sign : Nat := pow2 63

def notANumber : Nat := 2047 * pow2 52 + pow2 51

def roundQuotient (num den : Nat) : Nat :=
  let q := num / den
  let twice := 2 * (num % den)
  if den < twice ∨ (twice = den ∧ q % 2 = 1) then q + 1 else q

/-- The bits of the number next to `num / den`, both positive. The scale puts the quotient between
`2 ^ 52` and `2 ^ 53`, unless the number is subnormal. -/
def ofQuotient (num den : Nat) : Nat :=
  let guess : Int := (num.log2 : Int) - (den.log2 : Int)
  let below : Bool :=
    if 0 ≤ guess then num < den * pow2 guess.toNat else num * pow2 (-guess).toNat < den
  let top : Int := if below then guess - 1 else guess
  let scale : Int := max (top - 52) (-1074)
  let mantissa :=
    if 0 ≤ scale then roundQuotient num (den * pow2 scale.toNat)
    else roundQuotient (num * pow2 (-scale).toNat) den
  if mantissa < pow2 52 then mantissa
  else min infinity ((scale + 1075).toNat * pow2 52 + (mantissa - pow2 52))

/-- Exponents that are out of reach for the number of digits are settled without any power. -/
def ofDecimal (d : Decimal) : Nat :=
  let top : Int := d.exponent + (Nat.toDigits 10 d.digits).length
  if d.digits = 0 ∨ top < -400 then 0
  else if 400 < top then infinity
  else if 0 ≤ d.exponent then ofQuotient (d.digits * pow10 d.exponent.toNat) 1
  else ofQuotient d.digits (pow10 (-d.exponent).toNat)

def isZero (bits : Nat) : Bool := bits == 0 || bits == sign

end Binary64

def decimal? (cs : List Char) : Option Decimal := do
  let whole := cs.takeWhile Char.isDigit
  let rest := cs.dropWhile Char.isDigit
  let (fraction, rest) := match rest with
    | '.' :: more => (more.takeWhile Char.isDigit, more.dropWhile Char.isDigit)
    | _ => ([], rest)
  let digits ← natural? 10 (whole ++ fraction)
  let exponent : Int ← match rest with
    | [] => some 0
    | e :: more =>
      if e = 'e' ∨ e = 'E' then
        match more with
        | '-' :: ds => (natural? 10 ds).map fun n => -(n : Int)
        | '+' :: ds => (natural? 10 ds).map fun n => (n : Int)
        | ds => (natural? 10 ds).map fun n => (n : Int)
      else none
  return ⟨digits, exponent - fraction.length⟩

end ConventionLint.Text
