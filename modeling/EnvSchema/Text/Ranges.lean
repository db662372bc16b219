/-!
# Sets of characters as ranges

A set of characters, given as the list of the stretches of code points it is made of.

* `Ranges.has` — whether a character is in the set;
* `Ranges.has_iff` — it is exactly when it lies in one of the stretches.
-/

namespace EnvSchema.Text

/-- **A set of characters**: the first and the last code point of each stretch. -/
abbrev Ranges := List (Nat × Nat)

namespace Ranges

/-- Whether a character is in the set. -/
def has (r : Ranges) (c : Char) : Bool :=
  r.any fun p => p.1 ≤ c.toNat && c.toNat ≤ p.2

/-- A character is in the set exactly when one of the stretches holds it. -/
theorem has_iff {r : Ranges} {c : Char} :
    r.has c = true ↔ ∃ p ∈ r, p.1 ≤ c.toNat ∧ c.toNat ≤ p.2 := by
  simp [has, List.any_eq_true]

end Ranges

end EnvSchema.Text
