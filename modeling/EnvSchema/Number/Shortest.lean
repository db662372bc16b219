/-!
# The shortest decimal of a binary number

The fewest decimal digits that still name a given double, and of those the nearest to it. A double
is taken as `m * 2 ^ q`; the numbers that round to it form an interval around it, whose ends belong
to it exactly when `m` is even. All arithmetic is exact.

* `Dyadic.ofBits?` — the value of a pattern of bits, if it is a finite number;
* `Dyadic.shortest` — its digits, and the power of ten that the last of them counts;
* `positional` — digits written out without an exponent;
* `plain`, `pointed` — a double as text, without and with a point in a whole number.
-/

namespace EnvSchema.Number

/-- **A number `m * 2 ^ q`.** `floor` says that no smaller power of two is at hand, as for the
numbers next to zero. -/
structure Dyadic where
  /-- The whole number of units. -/
  m : Nat
  /-- The unit, as a power of two. -/
  q : Int
  /-- Whether the unit is the smallest there is. -/
  floor : Bool
  deriving Repr, DecidableEq

namespace Dyadic

/-- The value of a pattern of 64 bits without its sign, if it is a finite number. -/
def ofBits? (bits : Nat) : Option Dyadic :=
  let fraction : Nat := bits % Nat.pow 2 52
  let exponent : Nat := bits / Nat.pow 2 52 % Nat.pow 2 11
  if exponent == 2047 then none
  else if exponent == 0 then some ⟨fraction, -1074, true⟩
  else some ⟨Nat.pow 2 52 + fraction, (exponent : Int) - 1075, exponent == 1⟩

/-- A quarter of the unit, so that the ends of the interval are whole: numerator and denominator of
`n * 2 ^ (q - 2)`. -/
def quarters (d : Dyadic) (n : Nat) : Nat × Nat :=
  if 2 ≤ d.q then (n * Nat.pow 2 (d.q - 2).toNat, 1) else (n, Nat.pow 2 (2 - d.q).toNat)

/-- The lower end of the interval that rounds to the number, in quarters of the unit. The gap below
a power of two is half as wide as the one above it. -/
def lower (d : Dyadic) : Nat :=
  if d.m == Nat.pow 2 52 && !d.floor then 4 * d.m - 1 else 4 * d.m - 2

/-- The upper end of the interval, in quarters of the unit. -/
def upper (d : Dyadic) : Nat := 4 * d.m + 2

/-- Compares `c * 10 ^ k` with a fraction. -/
def compareScaled (c : Nat) (k : Int) (f : Nat × Nat) : Ordering :=
  if 0 ≤ k then compare (c * Nat.pow 10 k.toNat * f.2) f.1
  else compare (c * f.2) (f.1 * Nat.pow 10 (-k).toNat)

/-- Whether `c * 10 ^ k` rounds to the number. -/
def holds (d : Dyadic) (c : Nat) (k : Int) : Bool :=
  let low := compareScaled c k (d.quarters d.lower)
  let high := compareScaled c k (d.quarters d.upper)
  (low == .gt || (low == .eq && d.m % 2 == 0)) && (high == .lt || (high == .eq && d.m % 2 == 0))

/-- The largest whole `c` with `c * 10 ^ k` at most the number. -/
def below (d : Dyadic) (k : Int) : Nat :=
  let f := d.quarters (4 * d.m)
  if 0 ≤ k then f.1 / (f.2 * Nat.pow 10 k.toNat) else f.1 * Nat.pow 10 (-k).toNat / f.2

/-- The power of ten of the number's first digit. -/
def magnitude (d : Dyadic) : Int :=
  let f := d.quarters (4 * d.m)
  if f.2 ≤ f.1 then ((Nat.toDigits 10 (f.1 / f.2)).length : Int) - 1
  else
    -- digits of the quotient scaled up far enough to be at least one
    ((Nat.toDigits 10 (f.1 * Nat.pow 10 400 / f.2)).length : Int) - 401

/-- The digits on the grid `10 ^ k` that round to the number, the nearer of two. -/
def onGrid? (d : Dyadic) (k : Int) : Option Nat :=
  let c := d.below k
  match d.holds c k && c != 0, d.holds (c + 1) k with
  | true, true =>
    -- twice the number against the sum of both neighbours
    match compareScaled (2 * c + 1) k (d.quarters (8 * d.m)) with
    | .lt => some (c + 1)
    | .gt => some c
    | .eq => some (if c % 2 == 0 then c else c + 1)
  | true, false => some c
  | false, true => some (c + 1)
  | false, false => none

/-- The first grid, from the given number of digits on, that has a decimal for the number. -/
def search (d : Dyadic) (magnitude : Int) : Nat → Nat → Nat × Int
  | 0, digits => (d.below (magnitude - digits), magnitude - digits)
  | fuel + 1, digits =>
    let k := magnitude - digits
    match d.onGrid? k with
    | some c => (c, k)
    | none => search d magnitude fuel (digits + 1)

/-- The fewest digits that name the number, and the power of ten of the last one. Seventeen digits
always suffice. -/
def shortest (d : Dyadic) : Nat × Int :=
  if d.m == 0 then (0, 0) else d.search d.magnitude 17 0

end Dyadic

/-- Digits written out: `c * 10 ^ k` without an exponent. -/
def positional (c : Nat) (k : Int) : String :=
  let digits := Nat.toDigits 10 c
  if 0 ≤ k then String.ofList (digits ++ List.replicate k.toNat '0')
  else
    let places := (-k).toNat
    let padded := List.replicate (places + 1 - digits.length) '0' ++ digits
    let whole := padded.take (padded.length - places)
    let fraction := (padded.drop (padded.length - places)).reverse.dropWhile (· == '0') |>.reverse
    String.ofList (whole ++ if fraction.isEmpty then [] else '.' :: fraction)

/-- A double as text: no exponent, and no point in a whole number. -/
def plain (x : Float) : String :=
  let bits := x.toBits.toNat
  let sign := if bits / Nat.pow 2 63 == 1 then "-" else ""
  match Dyadic.ofBits? bits with
  | some d => let s := d.shortest; sign ++ positional s.1 s.2
  | none => if bits % Nat.pow 2 52 == 0 then sign ++ "inf" else "NaN"

/-- A double as text with a point, also where the number is whole. -/
def pointed (x : Float) : String :=
  let s := plain x
  if x.isFinite && !s.contains '.' then s ++ ".0" else s

end EnvSchema.Number
