import EnvSchema.Data.Toml.Reader.Basic
import EnvSchema.Number.Reading

/-!
# Numbers, dates and times in a document

Digits may be parted by single underscores. A number without a point and an exponent is whole and
has to fit into 64 bits; one with either is the double nearest to it.

* `integer`, `float` — numbers;
* `moment` — a date, a time of day or both.
-/

namespace EnvSchema.Data.Toml

open Read

/-! ### Digits -/

/-- Digits, of which some may stand behind an underscore, up to something else. -/
def moreDigits (isDigit : Char → Bool) : List Char → Except Stop (List Char × List Char)
  | ['_'] => .error { isFinal := true, expected := [.digit], left := 0 }
  | '_' :: d :: cs =>
    if isDigit d then do
      let (ds, rest) ← moreDigits isDigit cs
      return (d :: ds, rest)
    else .error { isFinal := true, expected := [.digit], left := cs.length + 1 }
  | d :: cs =>
    if isDigit d then do
      let (ds, rest) ← moreDigits isDigit cs
      return (d :: ds, rest)
    else .ok ([], d :: cs)
  | [] => .ok ([], [])

/-- One digit or more. -/
def digits (isDigit : Char → Bool) : Read (List Char) := do
  let d ← oneOf isDigit
  let ds ← moreDigits isDigit
  return d :: ds

/-- A sign, if there is one; whether it is a minus. -/
def sign : Read Bool := do
  match ← softly (oneOf fun c => c == '+' || c == '-') with
  | some c => return c == '-'
  | none => return false

/-- A whole number that starts with a zero only if it is one: whether it is negative, and its
digits. -/
def decimal : Read (Bool × List Char) := called .integer do
  let isNegative ← sign
  match ← peek with
  | some '0' =>
    char '0'
    return (isNegative, ['0'])
  | _ => return (isNegative, ← digits Char.isDigit)

/-! ### Whole numbers -/

/-- A number that fits into 64 bits with a sign. -/
def fitting (n : Int) : Except Cause Int :=
  if n < -(Nat.pow 2 63 : Nat) then .error .tooSmall
  else if (Nat.pow 2 63 : Nat) ≤ n then .error .tooLarge
  else .ok n

/-- A whole number in another base, behind a zero and a letter. -/
def based (label : Label) (opening : String) (base : Nat) : Read Int :=
  certain (checked fitting do
    let ds ← called label do
      literal opening
      digits fun c => (Number.digitValue? base c).isSome
    return (Number.ofDigits base ds : Int))

/-- **A whole number.** -/
def integer : Read Int := do
  match (← left).take 2 with
  | ['0', 'x'] => based .hexadecimal "0x" 16
  | ['0', 'o'] => based .octal "0o" 8
  | ['0', 'b'] => based .binary "0b" 2
  | _ => fun cs => do
    let ((isNegative, ds), rest) ← decimal cs
    let n : Int := Number.ofDigits 10 ds
    match fitting (if isNegative then -n else n) with
    | .ok n => return (n, rest)
    | .error c => .error { isFinal := true, cause := some c, left := cs.length }

/-! ### Numbers with a point or an exponent -/

/-- The digits behind a point. -/
def fraction : Read (List Char) := do
  char '.'
  certain (wanting [.digit] (digits Char.isDigit))

/-- An exponent, with its sign. -/
def exponent : Read (Bool × List Char) := do
  let _ ← oneOf fun c => c == 'e' || c == 'E'
  let isNegative ← sign
  return (isNegative, ← certain (digits Char.isDigit))

/-- The double nearest to a number that is given by its digits. -/
def nearest (isNegative : Bool) (whole fraction : List Char) (exponent : Bool × List Char) : Float :=
  let e : Int := Number.ofDigits 10 exponent.2
  let e := (if exponent.1 then -e else e) - fraction.length
  let x := Number.scientific (Number.ofDigits 10 (whole ++ fraction)) e
  if isNegative then -x else x

/-- A number with a point or an exponent, or both. One that is too large is refused; one that is too
small stands for the smallest. -/
def pointed : Read Float := fun cs => do
  let ((isNegative, whole), rest) ← decimal cs
  let (x, rest) ← (do
    match ← peek with
    | some '.' =>
      let fraction ← fraction
      let e ← softly exponent
      return nearest isNegative whole fraction (e.getD (false, []))
    | _ => return nearest isNegative whole [] (← exponent) : Read Float) rest
  if x.isInf && !isNegative then .error { isFinal := true, left := cs.length } else return (x, rest)

/-- What is no number, or more than any. -/
def special : Read Float := do
  let isNegative ← sign
  let x ← orElse (do literal "inf"; return 1.0 / 0.0) (do literal "nan"; return 0.0 / 0.0)
  return if isNegative then -x else x

/-- **A number that need not be whole.** -/
def float : Read Float := called .float (orElse pointed special)

/-! ### Dates and times -/

/-- So many digits, as a number within bounds. -/
def counted (count low high : Nat) : Read Nat :=
  checked (fun n => if low ≤ n ∧ n ≤ high then .ok n else .error .outOfRange) fun cs =>
    let ds := cs.take count
    if ds.length = count ∧ ds.all Char.isDigit then .ok (Number.ofDigits 10 ds, cs.drop count)
    else .error { left := cs.length }

/-- The days of a month. -/
def daysIn (year month : Nat) : Nat :=
  if month = 2 then
    if year % 4 = 0 ∧ (year % 100 ≠ 0 ∨ year % 400 = 0) then 29 else 28
  else if month = 4 ∨ month = 6 ∨ month = 9 ∨ month = 11 then 30
  else 31

/-- A date. Behind the year and a dash nothing is taken back. -/
def date : Read Unit := do
  let year ← counted 4 0 9999
  char '-'
  certain do
    let month ← counted 2 1 12
    char '-'
    let _ ← checked
      (fun day => if day ≤ daysIn year month then .ok day else .error .outOfRange) (counted 2 1 31)

/-- A time of day. Behind the hour and a colon nothing is taken back. -/
def time : Read Unit := do
  let _ ← counted 2 0 23
  char ':'
  certain do
    let _ ← counted 2 0 59
    char ':'
    let _ ← counted 2 0 60
    let _ ← softly do
      char '.'
      let _ ← oneOf Char.isDigit
      taking Char.isDigit

/-- How far a time is off the time at Greenwich. -/
def timeOffset : Read Unit := called .timeOffset do
  match ← oneOf fun c => c == 'Z' || c == 'z' || c == '+' || c == '-' with
  | 'Z' | 'z' => return
  | _ => certain do
    let _ ← counted 2 0 23
    char ':'
    let _ ← counted 2 0 59

/-- **A date, a time of day or both.** -/
def moment : Read Unit :=
  orElse
    (called .dateTime do
      date
      let _ ← softly do
        let _ ← oneOf fun c => c == 'T' || c == 't' || c == ' '
        time
        softly timeOffset)
    (called .time time)

end EnvSchema.Data.Toml
