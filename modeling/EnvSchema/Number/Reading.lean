/-!
# Reading numbers

A decimal written as text, as the double nearest to it.

* `ofDecimal` — digits, a point, more digits and an exponent, each but one part optional;
* `ofDigits` — digits of any base as a whole number.
-/

namespace EnvSchema.Number

/-- The value of a digit in a base up to sixteen. -/
def digitValue? (radix : Nat) (c : Char) : Option Nat :=
  let v :=
    if c.isDigit then some (c.toNat - '0'.toNat)
    else if 'a' ≤ c && c ≤ 'f' then some (c.toNat - 'a'.toNat + 10)
    else if 'A' ≤ c && c ≤ 'F' then some (c.toNat - 'A'.toNat + 10)
    else none
  v.filter (· < radix)

/-- The digits of a text as a whole number; what is no digit is passed over. -/
def ofDigits (radix : Nat) (cs : List Char) : Nat :=
  cs.foldl (fun n c => match digitValue? radix c with | some v => n * radix + v | none => n) 0

/-- `m * 10 ^ e` as the nearest double. Exponents far outside the range of doubles are cut first. -/
def scientific (m : Nat) (e : Int) : Float :=
  if m == 0 then 0.0
  else if e < -100000 then 0.0
  else if 100000 < e then 1.0 / 0.0
  else if e < 0 then Float.ofScientific m true (-e).toNat
  else Float.ofScientific m false e.toNat

/-- A decimal such as `1_0.5e-3` as the nearest double. -/
def ofDecimal (s : String) : Float :=
  let cs := s.toList.filter (· != '_')
  let mantissa := cs.takeWhile fun c => c != 'e' && c != 'E'
  let exponent := (cs.drop mantissa.length).drop 1
  let whole := mantissa.takeWhile (· != '.')
  let fraction := (mantissa.drop whole.length).drop 1
  let e : Int := match exponent with
    | '-' :: r => -(ofDigits 10 r : Int)
    | '+' :: r => ofDigits 10 r
    | r => ofDigits 10 r
  scientific (ofDigits 10 (whole ++ fraction)) (e - fraction.length)

end EnvSchema.Number
