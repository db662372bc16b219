import EnvSchema.Proofs.Script.Change

/-!
# Places in a script

Phrases that are the same may stand in several places of a script, so what is changed in it is told by
its place: the indices of the parts on the way to it. Places are ordered as a walk meets them that
visits the parts of a phrase before the whole.

* `Node.at?`, `Node.replaceAt` — the phrase at a place, and a phrase with another one at a place;
* `Place.Precedes` — the order of places: the inner one before the one around it, else the left one
  before the right one;
* `Node.First` — a place is the first one at which something holds;
* `Node.exists_first_of_changeFirst` — **the first phrase that can be changed** is changed, and
  nothing else;
* `Node.First.replaceAt` — the first place stays the first one if what is put there is like that.
-/

namespace EnvSchema.Script

/-- **A place**: the indices of the parts on the way to a phrase. -/
abbrev Place := List Nat

/-- **The order of places**: what is within a phrase comes before it, and the parts of a phrase come one
after the other. -/
def Place.Precedes : Place → Place → Prop
  | [], _ => False
  | _ :: _, [] => True
  | i :: is, j :: js => i < j ∨ i = j ∧ Place.Precedes is js

namespace Place

/-- Of two different places one precedes the other. -/
theorem precedes_trichotomy (p q : Place) : p = q ∨ p.Precedes q ∨ q.Precedes p := by
  -- part by part, up to the first one in which the places differ
  induction p generalizing q with
  | nil =>
    cases q with
    | nil => exact .inl rfl
    | cons j js => exact .inr (.inr trivial)
  | cons i is ih =>
    cases q with
    | nil => exact .inr (.inl trivial)
    | cons j js =>
      rcases Nat.lt_trichotomy i j with hlt | rfl | hlt
      · exact .inr (.inl (.inl hlt))
      · rcases ih js with rfl | h | h
        · exact .inl rfl
        · exact .inr (.inl (.inr ⟨rfl, h⟩))
        · exact .inr (.inr (.inr ⟨rfl, h⟩))
      · exact .inr (.inr (.inl hlt))

end Place

namespace Node

variable {P : Node → Prop} {n a b : Node} {i : Nat} {is place : Place}

/-! ### The phrase at a place -/

/-- **The phrase at a place**, if the place is there. -/
def at? (n : Node) : Place → Option Node
  | [] => some n
  | i :: is => n.parts[i]?.bind fun p => p.at? is

/-- A place within a part is the place in that part. -/
theorem at?_cons_eq_some_iff : n.at? (i :: is) = some a ↔ ∃ p, n.parts[i]? = some p ∧ p.at? is = some a :=
  Option.bind_eq_some_iff

/-- What is within the phrase at a place is within the whole. -/
theorem at?_append (n : Node) (p q : Place) : n.at? (p ++ q) = (n.at? p).bind (·.at? q) := by
  induction p generalizing n with
  | nil => rfl
  | cons i is ih =>
    change n.parts[i]?.bind _ = (n.parts[i]?.bind _).bind _
    cases n.parts[i]? with
    | none => rfl
    | some p => exact ih p

/-- A phrase at some place is met by a walk. -/
theorem mem_nodes_of_at? (h : n.at? place = some a) : a ∈ n.nodes := by
  induction place generalizing n with
  | nil => exact mem_nodes_iff.2 (.inl (Option.some.inj h).symm)
  | cons i is ih =>
    obtain ⟨p, hp, ha⟩ := at?_cons_eq_some_iff.1 h
    exact mem_nodes_iff.2 (.inr ⟨p, List.mem_of_getElem? hp, ih ha⟩)

/-- **A walk meets the phrases at all places.** -/
theorem mem_nodes_iff_at? : a ∈ n.nodes ↔ ∃ place, n.at? place = some a := by
  refine ⟨fun h => ?_, fun ⟨place, h⟩ => mem_nodes_of_at? h⟩
  have hwithin : a.Within n := mem_nodes_iff_within.1 h
  clear h
  induction hwithin with
  | refl => exact ⟨[], rfl⟩
  | part hq _ ih =>
    obtain ⟨is, his⟩ := ih
    obtain ⟨i, hi⟩ := List.getElem?_of_mem hq
    exact ⟨i :: is, at?_cons_eq_some_iff.2 ⟨_, hi, his⟩⟩

/-! ### Another phrase at a place -/

/-- **A phrase with another one at a place**; it stays as it is if the place is not there. -/
def replaceAt (n : Node) : Place → Node → Node
  | [], new => new
  | i :: is, new =>
    match n.parts[i]? with
    | some p => .mk n.span (n.form.refill (n.parts.set i (p.replaceAt is new)))
    | none => n

/-- What is put into a part is put into the whole. -/
theorem replaceAt_cons {p : Node} (h : n.parts[i]? = some p) (is : Place) (new : Node) :
    n.replaceAt (i :: is) new = .mk n.span (n.form.refill (n.parts.set i (p.replaceAt is new))) := by
  rw [replaceAt, h]

/-- The parts of a phrase into which something has been put. -/
theorem parts_replaceAt_cons {p : Node} (h : n.parts[i]? = some p) (is : Place) (new : Node) :
    (n.replaceAt (i :: is) new).parts = n.parts.set i (p.replaceAt is new) := by
  rw [replaceAt_cons h]
  exact Form.parts_refill (List.length_set ..)

/-- **What is put at a place** is found there. -/
theorem at?_replaceAt (h : n.at? place = some a) (new : Node) :
    (n.replaceAt place new).at? place = some new := by
  induction place generalizing n with
  | nil => rfl
  | cons i is ih =>
    obtain ⟨p, hp, ha⟩ := at?_cons_eq_some_iff.1 h
    obtain ⟨hi, -⟩ := List.getElem?_eq_some_iff.1 hp
    refine at?_cons_eq_some_iff.2 ⟨p.replaceAt is new, ?_, ih ha⟩
    rw [parts_replaceAt_cons hp, List.getElem?_set_self hi]

/-- What is put within the phrase at a place is put within the whole. -/
theorem replaceAt_append {p q : Place} (h : n.at? p = some a) (new : Node) :
    n.replaceAt (p ++ q) new = n.replaceAt p (a.replaceAt q new) := by
  induction p generalizing n with
  | nil =>
    cases h
    rfl
  | cons i is ih =>
    obtain ⟨c, hc, ha⟩ := at?_cons_eq_some_iff.1 h
    rw [List.cons_append, replaceAt_cons hc, replaceAt_cons hc, ih ha]

/-! ### First places -/

/-- **A place is the first one** at which something holds. -/
structure First (P : Node → Prop) (n : Node) (place : Place) : Prop where
  holds : ∃ a, n.at? place = some a ∧ P a
  earlier : ∀ other a, other.Precedes place → n.at? other = some a → ¬ P a

/-- There is one first place at most. -/
theorem First.unique {p q : Place} (hp : n.First P p) (hq : n.First P q) : p = q := by
  obtain ⟨a, ha, hPa⟩ := hp.holds
  obtain ⟨b, hb, hPb⟩ := hq.holds
  rcases Place.precedes_trichotomy p q with h | h | h
  · exact h
  · exact absurd hPa (hq.earlier p a h ha)
  · exact absurd hPb (hp.earlier q b h hb)

/-- First is the same for what is the same. -/
theorem First.congr {Q : Node → Prop} (h : n.First P place) (hPQ : ∀ x, P x ↔ Q x) :
    n.First Q place := by
  obtain rfl : P = Q := funext fun x => propext (hPQ x)
  exact h

/-- The whole is first if nothing is like that within it. -/
theorem first_nil_iff : n.First P [] ↔ P n ∧ ∀ p ∈ n.parts, ∀ x ∈ p.nodes, ¬ P x := by
  constructor
  · intro h
    obtain ⟨a, ha, hPa⟩ := h.holds
    cases ha
    refine ⟨hPa, fun p hp x hx => ?_⟩
    obtain ⟨i, hi⟩ := List.getElem?_of_mem hp
    obtain ⟨is, his⟩ := mem_nodes_iff_at?.1 hx
    exact h.earlier (i :: is) x trivial (at?_cons_eq_some_iff.2 ⟨p, hi, his⟩)
  · -- what is within the phrase comes before it, and none of that is meant
    rintro ⟨hPn, hparts⟩
    refine ⟨⟨n, rfl, hPn⟩, fun other a hother ha => ?_⟩
    cases other with
    | nil => exact hother.elim
    | cons i is =>
      obtain ⟨p, hp, ha⟩ := at?_cons_eq_some_iff.1 ha
      exact hparts p (List.mem_of_getElem? hp) a (mem_nodes_of_at? ha)

/-- A place within a part is first if it is so in the part, and nothing is like that before the
part. -/
theorem first_cons_iff : n.First P (i :: is) ↔ ∃ p, n.parts[i]? = some p ∧ p.First P is ∧
    ∀ j < i, ∀ q, n.parts[j]? = some q → ∀ x ∈ q.nodes, ¬ P x := by
  constructor
  · intro h
    obtain ⟨a, ha, hPa⟩ := h.holds
    obtain ⟨p, hp, ha⟩ := at?_cons_eq_some_iff.1 ha
    refine ⟨p, hp, ⟨⟨a, ha, hPa⟩, fun other x hother hx => ?_⟩, fun j hj q hq x hx => ?_⟩
    · exact h.earlier (i :: other) x (.inr ⟨rfl, hother⟩) (at?_cons_eq_some_iff.2 ⟨p, hp, hx⟩)
    · obtain ⟨js, hjs⟩ := mem_nodes_iff_at?.1 hx
      exact h.earlier (j :: js) x (.inl hj) (at?_cons_eq_some_iff.2 ⟨q, hq, hjs⟩)
  · -- a place that comes before is in a part before this one, or earlier in this one
    rintro ⟨p, hp, hfirst, hbefore⟩
    obtain ⟨a, ha, hPa⟩ := hfirst.holds
    refine ⟨⟨a, at?_cons_eq_some_iff.2 ⟨p, hp, ha⟩, hPa⟩, fun other x hother hx => ?_⟩
    cases other with
    | nil => exact hother.elim
    | cons j js =>
      obtain ⟨q, hq, hx⟩ := at?_cons_eq_some_iff.1 hx
      rcases hother with hj | ⟨rfl, hjs⟩
      · exact hbefore j hj q hq x (mem_nodes_of_at? hx)
      · cases hp.symm.trans hq
        exact hfirst.earlier js x hjs hx

/-- Nothing is like that within the phrase at the first place. -/
theorem First.within (h : n.First P place) (ha : n.at? place = some a) :
    ∀ p ∈ a.parts, ∀ x ∈ p.nodes, ¬ P x := by
  induction place generalizing n with
  | nil =>
    cases ha
    exact (first_nil_iff.1 h).2
  | cons i is ih =>
    obtain ⟨p, hp, hfirst, -⟩ := first_cons_iff.1 h
    obtain ⟨q, hq, ha⟩ := at?_cons_eq_some_iff.1 ha
    cases hp.symm.trans hq
    exact ih hfirst ha

/-- **The first place stays the first one** if what is put there is like that, and nothing within it
is. -/
theorem First.replaceAt (h : n.First P place) (hb : P b)
    (hparts : ∀ p ∈ b.parts, ∀ x ∈ p.nodes, ¬ P x) : (n.replaceAt place b).First P place := by
  induction place generalizing n with
  | nil => exact first_nil_iff.2 ⟨hb, hparts⟩
  | cons i is ih =>
    obtain ⟨p, hp, hfirst, hbefore⟩ := first_cons_iff.1 h
    obtain ⟨hi, -⟩ := List.getElem?_eq_some_iff.1 hp
    refine first_cons_iff.2 ⟨p.replaceAt is b, ?_, ih hfirst, fun j hj q hq => ?_⟩
    · rw [parts_replaceAt_cons hp, List.getElem?_set_self hi]
    · -- the parts before the one that is changed are as they were
      rw [parts_replaceAt_cons hp, List.getElem?_set_ne (Nat.ne_of_gt hj)] at hq
      exact hbefore j hj q hq

/-! ### The first phrase that can be changed -/

variable {change : Node → Option Node}

/-- Nothing in a list is changed if none of its phrases can be. -/
theorem changeFirstOf_eq_none_iff {α : Type} {f : α → Option α} {l : List α} :
    changeFirstOf f l = none ↔ ∀ x ∈ l, f x = none := by
  induction l with
  | nil => simp [changeFirstOf]
  | cons c l ih =>
    rw [changeFirstOf, List.forall_mem_cons, ← ih]
    cases hc : f c <;> simp

/-- **Nothing is changed** if no phrase can be. -/
theorem changeFirst_eq_none_iff {n : Node} :
    n.changeFirst change = none ↔ ∀ x ∈ n.nodes, change x = none := by
  rw [changeFirst_eq]
  have hparts : changeFirstOf (changeFirst change) n.parts = none ↔
      ∀ p ∈ n.parts, ∀ x ∈ p.nodes, change x = none := by
    rw [changeFirstOf_eq_none_iff]
    refine forall₂_congr fun p hp => ?_
    exact changeFirst_eq_none_iff
  have hnodes : (∀ x ∈ n.nodes, change x = none) ↔
      change n = none ∧ ∀ p ∈ n.parts, ∀ x ∈ p.nodes, change x = none := by
    rw [nodes_eq, List.forall_mem_cons, List.forall_mem_flatMap]
  rw [hnodes, ← hparts]
  cases changeFirstOf (changeFirst change) n.parts <;> simp
termination_by sizeOf n
decreasing_by exact sizeOf_lt_of_mem_parts hp

/-- **The first phrase that can be changed** is changed, and nothing else. -/
theorem exists_first_of_changeFirst {n m : Node} (h : n.changeFirst change = some m) :
    ∃ place a b, n.First (fun x => change x ≠ none) place ∧ n.at? place = some a ∧
      change a = some b ∧ m = n.replaceAt place b := by
  rw [changeFirst_eq] at h
  split at h
  · -- a part has been changed, the first one in which there is anything to change
    next ps hps =>
    obtain ⟨l₁, p, q, l₂, hparts, hnone, hpq, rfl⟩ := changeFirstOf_eq_some_iff.1 hps
    have hmem : p ∈ n.parts := by rw [hparts]; simp
    have hindex : n.parts[l₁.length]? = some p := by rw [hparts]; simp
    obtain ⟨is, a, b, hfirst, ha, hab, rfl⟩ := exists_first_of_changeFirst hpq
    refine ⟨l₁.length :: is, a, b, first_cons_iff.2 ⟨p, hindex, hfirst, fun j hj q hq x hx => ?_⟩,
      at?_cons_eq_some_iff.2 ⟨p, hindex, ha⟩, hab, ?_⟩
    · have hq : q ∈ l₁ := by
        rw [hparts, List.getElem?_append_left hj] at hq
        exact List.mem_of_getElem? hq
      exact fun hx' => hx' (changeFirst_eq_none_iff.1 (hnone q hq) x hx)
    · rw [replaceAt_cons hindex, hparts, List.set_append_right _ _ (Nat.le_refl _), Nat.sub_self,
        List.set_cons_zero]
      exact (Option.some.inj h).symm
  · next hps =>
    refine ⟨[], n, m, first_nil_iff.2 ⟨?_, fun p hp x hx => ?_⟩, rfl, h, rfl⟩
    · rw [h]
      exact Option.some_ne_none m
    · have hnone := changeFirstOf_eq_none_iff.1 hps p hp
      exact fun hx' => hx' (changeFirst_eq_none_iff.1 hnone x hx)
termination_by sizeOf n
decreasing_by exact sizeOf_lt_of_mem_parts hmem

end Node

end EnvSchema.Script
