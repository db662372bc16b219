/-!
# Sets of names

A set of names, as the list of its members in the order of their code points and without repetition:
the order in which names are shown and asked about.

* `Names.insert`, `Names.ofList`, `Names.without` — one more name, the names of a list, and a set
  less another one;
* `Names.mem_insert`, `Names.mem_ofList`, `Names.mem_without` — their members;
* `Names.toList_nodup` — no name is shown twice;
* `Names.ext` — a set is told by its members.
-/

namespace EnvSchema

/-- **A set of names**, in the order of their code points. -/
structure Names where
  /-- The members. -/
  toList : List String
  /-- They are in order. -/
  ordered : toList.Pairwise (· < ·) := by simp

namespace Names

/-- The set without members. -/
def empty : Names := { toList := [] }

instance : Inhabited Names := ⟨empty⟩

instance : EmptyCollection Names := ⟨empty⟩

instance : Membership String Names := ⟨fun ns n => n ∈ ns.toList⟩

instance (n : String) (ns : Names) : Decidable (n ∈ ns) :=
  inferInstanceAs (Decidable (n ∈ ns.toList))

/-- Being a member is being listed. -/
theorem mem_iff {n : String} {ns : Names} : n ∈ ns ↔ n ∈ ns.toList := .rfl

/-- Whether a set has no members. -/
def isEmpty (ns : Names) : Bool := ns.toList.isEmpty

/-- A set lists nothing just if nothing is a member. -/
theorem isEmpty_iff {ns : Names} : ns.isEmpty = true ↔ ∀ x, x ∉ ns := by
  rw [isEmpty, List.isEmpty_iff, List.eq_nil_iff_forall_not_mem]
  rfl

/-- A set that lists nothing is the one without members. -/
theorem eq_empty_of_isEmpty {ns : Names} (h : ns.isEmpty = true) : ns = {} := by
  obtain ⟨l, hl⟩ := ns
  obtain rfl : l = [] := List.isEmpty_iff.1 h
  rfl

/-- A list in order with one more name in its place. -/
def place (n : String) : List String → List String
  | [] => [n]
  | m :: l => if n < m then n :: m :: l else if n = m then m :: l else m :: place n l

/-- Placing a name adds it and nothing else. -/
theorem mem_place {n x : String} {l : List String} : x ∈ place n l ↔ x = n ∨ x ∈ l := by
  induction l with
  | nil => simp [place]
  | cons m l ih =>
    unfold place
    split
    · simp
    · split
      · rename_i h
        subst h
        simp
      · simp only [List.mem_cons, ih]
        grind

/-- Two different names are in one of the two orders. -/
private theorem lt_of_not_lt {n m : String} (h : ¬ n < m) (ne : n ≠ m) : m < n :=
  Classical.byContradiction fun h' => ne (String.le_antisymm (String.not_lt.1 h') (String.not_lt.1 h))

/-- Placing a name keeps the order. -/
theorem place_ordered {n : String} {l : List String} (h : l.Pairwise (· < ·)) :
    (place n l).Pairwise (· < ·) := by
  induction l with
  | nil => simp [place]
  | cons m l ih =>
    obtain ⟨hm, hl⟩ := List.pairwise_cons.1 h
    unfold place
    split
    · rename_i lt
      refine List.pairwise_cons.2 ⟨fun x hx => ?_, h⟩
      rcases List.mem_cons.1 hx with rfl | hx
      · exact lt
      · exact String.lt_trans lt (hm x hx)
    · split
      · exact h
      · rename_i nlt ne
        refine List.pairwise_cons.2 ⟨fun x hx => ?_, ih hl⟩
        rcases mem_place.1 hx with rfl | hx
        · exact lt_of_not_lt nlt ne
        · exact hm x hx

/-- **A set with one more name.** -/
def insert (ns : Names) (n : String) : Names := ⟨place n ns.toList, place_ordered ns.ordered⟩

/-- The members of a set with one more name. -/
@[simp] theorem mem_insert {ns : Names} {n x : String} : x ∈ ns.insert n ↔ x = n ∨ x ∈ ns :=
  mem_place

/-- **The names of a list.** -/
def ofList (l : List String) : Names := l.foldl insert empty

private theorem mem_foldl_insert {l : List String} {ns : Names} {x : String} :
    x ∈ l.foldl insert ns ↔ x ∈ l ∨ x ∈ ns := by
  induction l generalizing ns with
  | nil => simp
  | cons m l ih =>
    rw [List.foldl_cons, ih, mem_insert, List.mem_cons]
    grind

/-- The members of the set of a list. -/
@[simp] theorem mem_ofList {l : List String} {x : String} : x ∈ ofList l ↔ x ∈ l := by
  rw [ofList, mem_foldl_insert]
  simp [mem_iff, empty]

/-- **The members of a set that are not in another one.** -/
def without (ns others : Names) : Names :=
  ⟨ns.toList.filter fun n => n ∉ others.toList, ns.ordered.filter _⟩

/-- The members of a set less another one. -/
@[simp] theorem mem_without {ns others : Names} {x : String} :
    x ∈ ns.without others ↔ x ∈ ns ∧ x ∉ others := by
  simp [mem_iff, without]

/-- A set less another one is no larger. -/
theorem length_without_le (ns others : Names) :
    (ns.without others).toList.length ≤ ns.toList.length :=
  List.length_filter_le ..

/-- A set less another one is smaller if they have a member in common. -/
theorem length_without_lt {ns others : Names} {x : String} (h : x ∈ ns) (h' : x ∈ others) :
    (ns.without others).toList.length < ns.toList.length :=
  List.length_filter_lt_length_iff_exists.2 ⟨x, h, by simpa using mem_iff.1 h'⟩

/-- No name is listed twice. -/
theorem toList_nodup (ns : Names) : ns.toList.Nodup :=
  ns.ordered.imp fun {a b} (h : a < b) (e : a = b) => String.lt_irrefl b (e ▸ h)

/-- **Sets with the same members are the same**, for there is one order to list them in. -/
theorem ext {ns others : Names} (h : ∀ x, x ∈ ns ↔ x ∈ others) : ns = others := by
  have hperm : ns.toList.Perm others.toList :=
    (List.perm_ext_iff_of_nodup ns.toList_nodup others.toList_nodup).2 h
  have hlist : ns.toList = others.toList := by
    refine hperm.eq_of_pairwise ?_ ns.ordered others.ordered
    intro a b _ _ hab hba
    exact absurd (String.lt_trans hab hba) (String.lt_irrefl a)
  obtain ⟨l, hl⟩ := ns
  obtain ⟨l', hl'⟩ := others
  obtain rfl : l = l' := hlist
  rfl

end Names

end EnvSchema
