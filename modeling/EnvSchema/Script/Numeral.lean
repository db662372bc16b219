import EnvSchema.Number.Reading

/-!
# Numerals of a script

What a number stands for, from the way it is written: in base ten, or in another base named after
its first zero. A number that starts with zero and has no digit above seven is in base eight.

* `numeralBase` — the base and the digits;
* `numeralValue` — the value as a double;
* `bigNumeralValue` — the value of a whole number that carries the mark of any size.
-/

namespace EnvSchema.Script

open EnvSchema.Number

/-- The base of a number, and the characters of its digits. -/
def numeralBase (raw : List Char) : Nat × List Char :=
  match raw with
  | '0' :: c :: cs =>
    if c == 'x' || c == 'X' then (16, cs)
    else if c == 'o' || c == 'O' then (8, cs)
    else if c == 'b' || c == 'B' then (2, cs)
    else if raw.all (fun c => '0' ≤ c && c ≤ '7') then (8, raw)
    else (10, raw)
  | _ => (10, raw)

/-- The value of a number as it is written. -/
def numeralValue (raw : String) : Float :=
  match numeralBase raw.toList with
  | (10, _) => ofDecimal raw
  | (radix, cs) => scientific (ofDigits radix cs) 0

/-- The value of a whole number with its mark. -/
def bigNumeralValue (raw : String) : Nat :=
  let (radix, cs) := numeralBase (raw.toList.filter (· != 'n'))
  ofDigits radix cs

end EnvSchema.Script
