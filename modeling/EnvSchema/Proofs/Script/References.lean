import EnvSchema.Script.References

/-!
# What a module reads, wherever it stands

A walk lists all phrases of a module. Here it is tied to the phrases themselves, without the order in
which a walk meets them:

* `Node.Within` — a phrase stands within another one, as a part of it or of one of its parts;
* `Node.mem_nodes_iff_within` — a walk meets these phrases and no others;
* `Module.firstUndeclared_eq` — the search that ends at members finds what a walk over all phrases
  finds first;
* `Module.Reads` — a module reads a variable in some phrase, at any depth;
* `Module.mem_references_iff`, `Module.firstUndeclared_eq_none_iff_reads`,
  `Module.reads_of_firstUndeclared` — what is found of a module, by what it reads.
-/

namespace EnvSchema.Script

namespace Node

/-- The phrases of a walk are the whole and those of its parts. -/
theorem mem_nodes_iff {n p : Node} : p ∈ n.nodes ↔ p = n ∨ ∃ q ∈ n.parts, p ∈ q.nodes := by
  rw [nodes_eq, List.mem_cons, List.mem_flatMap]

/-- **A phrase stands within another one**: it is the same one, or within a part of it. -/
inductive Within : Node → Node → Prop
  | refl (n : Node) : Within n n
  | part {p q n : Node} (hq : q ∈ n.parts) (hp : Within p q) : Within p n

/-- A walk meets every phrase within the one that it goes through. -/
private theorem mem_nodes_of_within {p n : Node} (h : p.Within n) : p ∈ n.nodes := by
  induction h with
  | refl => exact mem_nodes_iff.2 (.inl rfl)
  | part hq _ ih => exact mem_nodes_iff.2 (.inr ⟨_, hq, ih⟩)

/-- A walk meets no other phrase. -/
private theorem within_of_mem_nodes {p n : Node} (h : p ∈ n.nodes) : p.Within n := by
  rcases mem_nodes_iff.1 h with rfl | ⟨q, hq, hp⟩
  · exact .refl p
  · exact .part hq (within_of_mem_nodes hp)
termination_by sizeOf n
decreasing_by exact sizeOf_lt_of_mem_parts hq

/-- **A walk meets the phrases within the one that it goes through.** -/
theorem mem_nodes_iff_within {p n : Node} : p ∈ n.nodes ↔ p.Within n :=
  ⟨within_of_mem_nodes, mem_nodes_of_within⟩

/-- Only a member reads a variable. -/
theorem isMember_of_envName? {n : Node} {name : String} (h : n.envName? = some name) :
    n.isMember = true := by
  unfold envName? at h
  unfold isMember
  split at h
  · rfl
  · exact nomatch h

/-- The first variable of a walk that is not declared. -/
private def first (declared : Names) (n : Node) : Option String :=
  (n.nodes.filterMap envName?).find? (· ∉ declared)

/-- A walk meets the whole first, and then what is first in its parts. -/
private theorem first_eq (declared : Names) (n : Node) :
    n.first declared = (n.undeclared? declared).or (n.parts.findSome? (first declared)) := by
  have hparts : ((n.parts.flatMap nodes).filterMap envName?).find? (· ∉ declared) =
      n.parts.findSome? (first declared) := by
    rw [List.filterMap_flatMap, List.find?_flatMap]
    rfl
  rw [first, nodes_eq, List.filterMap_cons, undeclared?]
  cases n.envName? with
  | none => exact hparts
  | some name =>
    rw [List.find?_cons, hparts, Option.filter_some]
    cases decide (name ∉ declared) <;> rfl

/-- A search through phrases in a row finds what is first in them, if this holds of each. -/
private theorem foldl_search {declared : Names} {l : List Node}
    (h : ∀ n ∈ l, ∀ found, n.search declared found = found.or (n.first declared))
    (found : Option String) :
    l.foldl (fun found n => n.search declared found) found =
      found.or (l.findSome? (first declared)) := by
  induction l generalizing found with
  | nil => simp
  | cons n l ih =>
    rw [List.foldl_cons, h n List.mem_cons_self, ih fun p hp => h p (List.mem_cons_of_mem _ hp),
      Option.or_assoc, List.findSome?_cons]
    cases n.first declared <;> rfl

/-- **A search keeps what was found before, and else finds what a walk meets first.** A member that
it does not enter has nothing to add: either something was found before, or the member itself is
met before all that stands within it. -/
private theorem search_eq (declared : Names) (found : Option String) (n : Node) :
    n.search declared found = found.or (n.first declared) := by
  have hparts : n.parts.foldl (fun found p => p.search declared found) found =
      found.or (n.parts.findSome? (first declared)) :=
    foldl_search (fun p hp found => search_eq declared found p) found
  rw [search, List.foldl_subtype fun _ _ _ => rfl, List.unattach_attach, hparts, first_eq]
  split
  · -- a name has been found before, and the search goes on without looking
    rename_i h
    obtain ⟨-, hfound⟩ := Bool.and_eq_true_iff.1 h
    rw [Option.or_of_isSome hfound]
  · rename_i h
    cases hname : n.undeclared? declared with
    | none => rfl
    | some name =>
      obtain ⟨hread, -⟩ := Option.filter_eq_some_iff.1 hname
      have hnone : found = none := by simpa [isMember_of_envName? hread] using h
      rw [hnone]
      rfl
termination_by sizeOf n
decreasing_by exact sizeOf_lt_of_mem_parts hp

end Node

namespace Module

variable {m : Module} {declared : Names} {name : String}

/-- **The search finds the first variable of a walk that is not declared.** -/
theorem firstUndeclared_eq (m : Module) (declared : Names) :
    m.firstUndeclared declared = m.references.find? (· ∉ declared) := by
  calc m.firstUndeclared declared
    _ = m.items.findSome? (Node.first declared) := by
      rw [firstUndeclared, Node.foldl_search (fun n _ found => Node.search_eq declared found n),
        Option.none_or]
    _ = (m.items.flatMap fun n => n.nodes.filterMap Node.envName?).find? (· ∉ declared) := by
      rw [List.find?_flatMap]
      rfl
    _ = m.references.find? (· ∉ declared) := by
      rw [references, nodes, List.filterMap_flatMap]

/-- There is a first undeclared variable unless every variable that is read is declared. -/
theorem firstUndeclared_eq_none_iff :
    m.firstUndeclared declared = none ↔ ∀ name ∈ m.references, name ∈ declared := by
  simp [firstUndeclared_eq]

/-- **A module reads a variable**: a phrase within one of its items does. -/
def Reads (m : Module) (name : String) : Prop :=
  ∃ item ∈ m.items, ∃ p : Node, p.Within item ∧ p.envName? = some name

/-- The references of a module are the variables that it reads. -/
theorem mem_references_iff : name ∈ m.references ↔ m.Reads name := by
  rw [references, List.mem_filterMap]
  constructor
  · rintro ⟨p, hp, hname⟩
    obtain ⟨item, hitem, hp⟩ := List.mem_flatMap.1 hp
    exact ⟨item, hitem, p, Node.mem_nodes_iff_within.1 hp, hname⟩
  · rintro ⟨item, hitem, p, hp, hname⟩
    exact ⟨p, List.mem_flatMap.2 ⟨item, hitem, Node.mem_nodes_iff_within.2 hp⟩, hname⟩

/-- Nothing undeclared is found if all that a module reads is declared. -/
theorem firstUndeclared_eq_none_iff_reads :
    m.firstUndeclared declared = none ↔ ∀ name, m.Reads name → name ∈ declared := by
  rw [firstUndeclared_eq_none_iff]
  exact forall_congr' fun name => imp_congr_left mem_references_iff

/-- What is found is read and not declared. -/
theorem reads_of_firstUndeclared (h : m.firstUndeclared declared = some name) :
    m.Reads name ∧ name ∉ declared := by
  rw [firstUndeclared_eq] at h
  have hmem : name ∈ m.references := List.mem_of_find?_eq_some h
  have hnot := List.find?_some h
  exact ⟨mem_references_iff.1 hmem, by simpa using hnot⟩

end Module

end EnvSchema.Script
