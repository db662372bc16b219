import EnvSchema.Number.Reading
import EnvSchema.Script.Reader.Blanks
import EnvSchema.Text.Letters

/-!
# Digits and numbers

Numbers as they stand in a script: digits of a base with separators between them, a point, an
exponent, and the mark of a whole number of any size.

* `Digits.scan` — the digits that a text starts with;
* `Read.digits` — takes them;
* `Read.number` — reads a number that starts with a digit or a point.
-/

namespace EnvSchema.Script

open EnvSchema.Number

/-- **The digits that a text starts with.** -/
structure Digits where
  /-- The digits, without separators. -/
  digits : List Char := []
  /-- The number of characters they take, with separators. -/
  taken : Nat := 0
  /-- Whether a separator does not stand before a digit. -/
  misplaced : Bool := false
  deriving Repr

/-- The digits that a text starts with, at most as many as the limit says. -/
def Digits.scan (radix : Nat) : Option Nat → List Char → Digits
  | some 0, _ => {}
  | _, [] => {}
  | limit, c :: cs =>
    if c == '_' then
      let d := scan radix limit cs
      let lonely := !(cs.head?.bind (digitValue? radix)).isSome
      { d with taken := d.taken + 1, misplaced := d.misplaced || lonely }
    else if (digitValue? radix c).isSome then
      let d := scan radix (limit.map (· - 1)) cs
      { d with digits := c :: d.digits, taken := d.taken + 1 }
    else {}

/-- No more characters are taken than there are. -/
theorem Digits.taken_scan_le (radix : Nat) (limit : Option Nat) (cs : List Char) :
    (Digits.scan radix limit cs).taken ≤ cs.length := by
  fun_induction Digits.scan radix limit cs with
  | case1 | case2 | case5 => simp
  | case3 _ _ _ _ _ _ _ ih => exact Nat.succ_le_succ ih
  | case4 _ _ _ _ _ _ _ ih => exact Nat.succ_le_succ ih

namespace Read

/-- Takes the digits ahead, at most as many as the limit says. -/
def digits (radix : Nat) (limit : Option Nat) : Read (List Char) := do
  let r ← get
  let run := Digits.scan radix limit r.rest
  skip run.taken
  if run.misplaced then record ⟨r.pos, r.pos⟩ .misplacedSeparator
  return run.digits

/-- Takes digits of which there has to be one. -/
def someDigits (radix : Nat) : Read (List Char) := do
  let start := (← get).pos
  let ds ← digits radix none
  if ds.isEmpty then failFrom start (.digitExpected radix)
  return ds

/-- The text from a place on that the reader has passed. -/
def passedSince (before : Reader) : Read String := do
  return String.ofList (before.rest.take ((← get).pos - before.pos))

/-- A number may not run into a name. -/
def endNumber : Read Unit := do
  match ← char? with
  | some c => if Text.isIdentStart c then fail (.point (← get).pos) .identAfterNumber
  | none => pure ()

/-- Reads a number of another base, from its zero on. -/
def radixNumber (radix : Nat) : Read Token := do
  let before ← get
  skip 2
  let _ ← someDigits radix
  if ← eatChar 'n' then return .bigint (← passedSince before)
  endNumber
  return .number (← passedSince before)

/-- Ends a number of the old octal form. -/
def legacyOctalNumber (before : Reader) : Read Token := do
  endNumber
  if before.dialect.hasTypes then recordFrom before.pos .legacyOctalWithTypes
  recordStrict ⟨before.pos, (← get).pos⟩ .legacyOctal
  return .number (← passedSince before)

/-- Reads the exponent of a number, if there is one. -/
def exponent : Read Unit := do
  match ← char? with
  | some 'e' | some 'E' =>
    skip 1
    match ← char? with
    | none => fail (.point (← get).pos) .exponentDigitExpected
    | some c => if c == '+' || c == '-' then skip 1
    let _ ← someDigits 10
  | _ => pure ()

/-- Reads what follows the whole part of a decimal number. -/
def fraction (before : Reader) : Read Token := do
  if ← eatChar '.' then
    let _ ← digits 10 none
  exponent
  endNumber
  return .number (← passedSince before)

/-- Reads a decimal number. One that starts with zero and goes on with digits is of the old octal
form, unless it has a digit above seven. -/
def decimalNumber : Read Token := do
  let before ← get
  if (← char?) == some '.' then fraction before
  else
    let startsWithZero := (← char?) == some '0'
    let ds ← someDigits 10
    let taken := (← get).pos - before.pos
    if ← (pure (!startsWithZero || taken == 1) <&&> eatChar 'n') then
      return .bigint (← passedSince before)
    else if startsWithZero && ds.all (· == '0') then
      if taken == 1 then fraction before else legacyOctalNumber before
    else if startsWithZero then
      if ds.any fun c => c == '8' || c == '9' then
        recordStrict ⟨before.pos, (← get).pos⟩ .legacyDecimal
        fraction before
      else legacyOctalNumber before
    else fraction before

/-- **Reads a number.** -/
def number : Read Token := do
  match ← char?, ← charAfter? with
  | some '0', some c =>
    if c == 'x' || c == 'X' then radixNumber 16
    else if c == 'o' || c == 'O' then radixNumber 8
    else if c == 'b' || c == 'B' then radixNumber 2
    else decimalNumber
  | _, _ => decimalNumber

end Read

end EnvSchema.Script
