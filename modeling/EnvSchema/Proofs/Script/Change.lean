import EnvSchema.Proofs.Script.References
import EnvSchema.Proofs.Script.Refill

/-!
# What a change in one place does to the keys

`Node.changeFirst` changes one phrase of a tree, in the place where it is. What holds of that phrase
and the one put in its place has to be carried up to the whole tree. Here it is carried for the keys
that object literals declare:

* `Node.Declares` — a key is declared somewhere in a phrase;
* `Node.Gains` — a phrase stands for another one that declares some keys more, and looks the same to
  the phrase around it;
* `Node.gains_changeFirst` — if every change gains some keys, so does the whole tree.

A phrase looks at the texts of its parts only where it is a property, whose key they are. That is why
`Gains` says that these texts stay: without it, a changed key would be another key of the property
around it.
-/

namespace EnvSchema.Script.Node

/-! ### Keys in a phrase -/

/-- **A key is declared in a phrase**: it is the key of the phrase or of one within it. -/
def Declares (n : Node) (x : String) : Prop := ∃ p ∈ n.nodes, p.key? = some x

/-- What is declared in a phrase is its own key or declared in a part. -/
theorem declares_iff {n : Node} {x : String} :
    n.Declares x ↔ n.key? = some x ∨ ∃ p ∈ n.parts, p.Declares x := by
  constructor
  · rintro ⟨p, hp, hx⟩
    rcases mem_nodes_iff.1 hp with rfl | ⟨q, hq, hpq⟩
    · exact .inl hx
    · exact .inr ⟨q, hq, p, hpq, hx⟩
  · rintro (hx | ⟨q, hq, p, hpq, hx⟩)
    · exact ⟨n, mem_nodes_iff.2 (.inl rfl), hx⟩
    · exact ⟨p, mem_nodes_iff.2 (.inr ⟨q, hq, hpq⟩), hx⟩

/-! ### Gaining keys -/

variable {more : String → Prop}

/-- **A phrase `b` in the place of `a` declares the keys of `a` and some more**, and it looks the
same to a property whose key it is. -/
structure Gains (more : String → Prop) (a b : Node) : Prop where
  name : b.name? = a.name?
  keyText : b.keyText? = a.keyText?
  declares : ∀ x, b.Declares x ↔ a.Declares x ∨ more x

/-- A list in which one phrase has gained some keys declares them besides its own. -/
theorem exists_declares_middle {l₁ l₂ : List Node} {a b : Node} (h : Gains more a b)
    (x : String) :
    (∃ p ∈ l₁ ++ b :: l₂, p.Declares x) ↔ (∃ p ∈ l₁ ++ a :: l₂, p.Declares x) ∨ more x := by
  have split (c : Node) : (∃ p ∈ l₁ ++ c :: l₂, p.Declares x) ↔
      (∃ p ∈ l₁, p.Declares x) ∨ c.Declares x ∨ ∃ p ∈ l₂, p.Declares x := by
    simp only [List.mem_append, List.mem_cons, or_and_right, exists_or, exists_eq_left]
  rw [split, split, h.declares x]
  grind

/-- **A phrase gains what one of its parts gains.** -/
theorem Gains.of_part {n m a b : Node} {l₁ l₂ : List Node} (h : Gains more a b)
    (hn : n.parts = l₁ ++ a :: l₂) (hm : m.parts = l₁ ++ b :: l₂) (hname : m.name? = n.name?)
    (htext : m.keyText? = n.keyText?) (hkey : m.key? = n.key?) : Gains more n m where
  name := hname
  keyText := htext
  declares x := by
    rw [declares_iff, declares_iff (n := n), hkey, hn, hm, exists_declares_middle h x, or_assoc]

/-! ### Changing -/

variable {α : Type} {change : Node → Option Node}

/-- The first element that can be changed is changed, and those before it cannot be. -/
theorem changeFirstOf_eq_some_iff {f : α → Option α} {l m : List α} :
    changeFirstOf f l = some m ↔ ∃ l₁ a b l₂, l = l₁ ++ a :: l₂ ∧ (∀ x ∈ l₁, f x = none) ∧
      f a = some b ∧ m = l₁ ++ b :: l₂ := by
  -- element by element: the first one is changed, or it is left alone and another one is changed
  induction l generalizing m with
  | nil => simp [changeFirstOf]
  | cons c l ih =>
    unfold changeFirstOf
    cases hc : f c with
    | some d =>
      constructor
      · intro h
        exact ⟨[], c, d, l, rfl, by simp, hc, (Option.some.inj h).symm⟩
      · rintro ⟨l₁, a, b, l₂, hl, hnone, hab, rfl⟩
        cases l₁ with
        | nil =>
          obtain ⟨rfl, rfl⟩ := List.cons.inj hl
          obtain rfl : d = b := Option.some.inj (hc.symm.trans hab)
          rfl
        | cons c' l₁ =>
          obtain ⟨rfl, -⟩ := List.cons.inj hl
          rw [hnone c (by simp)] at hc
          exact absurd hc (by simp)
    | none =>
      simp only [Option.map_eq_some_iff, ih]
      constructor
      · rintro ⟨_, ⟨l₁, a, b, l₂, rfl, hnone, hab, rfl⟩, rfl⟩
        refine ⟨c :: l₁, a, b, l₂, rfl, ?_, hab, rfl⟩
        simpa [hc] using hnone
      · rintro ⟨l₁, a, b, l₂, hl, hnone, hab, rfl⟩
        cases l₁ with
        | nil =>
          obtain ⟨rfl, -⟩ := List.cons.inj hl
          rw [hab] at hc
          exact absurd hc (by simp)
        | cons c' l₁ =>
          obtain ⟨rfl, rfl⟩ := List.cons.inj hl
          exact ⟨_, ⟨l₁, a, b, l₂, rfl, fun x hx => hnone x (by simp [hx]), hab, rfl⟩, rfl⟩

/-- Changing a list whose elements come with what each may be changed to. -/
private theorem changeFirstOf_pairs (f : Node → Option Node) (l : List Node) :
    (changeFirstOf (fun p : Node × Option Node => p.2.map fun b => (b, none))
        (l.map fun p => (p, f p))).map (List.map Prod.fst) = changeFirstOf f l := by
  -- the pairs are gone through as the elements are, each with what comes of its change
  induction l with
  | nil => rfl
  | cons a l ih =>
    rw [List.map_cons, changeFirstOf, changeFirstOf]
    cases f a with
    | some b =>
      change some (b :: (l.map fun p => (p, f p)).map Prod.fst) = some (b :: l)
      rw [List.map_map]
      exact congrArg (fun m => some (b :: m)) (List.map_id l)
    | none =>
      change (Option.map ((a, none) :: ·) _).map (List.map Prod.fst) = (changeFirstOf f l).map (a :: ·)
      rw [← ih, Option.map_map, Option.map_map]
      rfl

/-- A phrase is changed in the first part that can be changed, or else as a whole. -/
theorem changeFirst_eq (change : Node → Option Node) (n : Node) :
    n.changeFirst change =
      match changeFirstOf (changeFirst change) n.parts with
      | some ps => some (.mk n.span (n.form.refill ps))
      | none => change n := by
  have hattach : (n.parts.attach.map fun p => (p.1, p.1.changeFirst change)) =
      n.parts.map fun p => (p, p.changeFirst change) := by
    conv => rhs; rw [← List.attach_map_subtype_val n.parts, List.map_map]
    rfl
  rw [changeFirst, ← changeFirstOf_pairs, hattach]
  cases changeFirstOf _ (n.parts.map fun p => (p, p.changeFirst change)) <;> rfl

/-- **A tree gains what any change in it gains.** -/
theorem gains_changeFirst (hc : ∀ a b, change a = some b → Gains more a b) {n m : Node}
    (h : n.changeFirst change = some m) : Gains more n m := by
  rw [changeFirst_eq] at h
  split at h
  · next ps hps =>
    obtain ⟨l₁, a, b, l₂, hparts, -, hab, rfl⟩ := changeFirstOf_eq_some_iff.1 hps
    have hmem : a ∈ n.parts := by rw [hparts]; simp
    have hgain : Gains more a b := gains_changeFirst hc hab
    obtain rfl := Option.some.inj h
    have hform : n.form.parts = l₁ ++ a :: l₂ := hparts
    -- the part put in has the texts of the one in whose place it is
    have hnames : (l₁ ++ b :: l₂).map name? = n.form.parts.map name? := by
      simp [hform, hgain.name]
    have htexts : (l₁ ++ b :: l₂).map keyText? = n.form.parts.map keyText? := by
      simp [hform, hgain.keyText]
    refine hgain.of_part hparts (Form.parts_refill ?_) ?_ ?_ ?_
    · simp [hform]
    · exact name?_refill (t := n.span)
    · exact keyText?_refill (t := n.span)
    · exact key?_refill (t := n.span) hnames htexts
  · exact hc n m h
termination_by sizeOf n
decreasing_by exact sizeOf_lt_of_mem_parts hmem

end EnvSchema.Script.Node
