import EnvSchema.Proofs.Script.References

/-!
# Asking for one undeclared variable after another

A search ends at the first variable that is not declared. If it is declared and the module is
searched again, the next one is found, until nothing is left:

* `Module.members`, `Module.members_isInfix` — the members of a module in the order of a walk;
* `Module.Exhausts` — searches in a row, each answer declared before the next search;
* `Module.idxOf_lt_of_firstUndeclared` — what one search finds is read before all that is left;
* `Module.exhausts_iff` — there is one way to end, and it is reached;
* `Module.mem_of_exhausts`, `Module.pairwise_of_exhausts` — what is found on the way, and in which
  order.
-/

namespace EnvSchema.Script.Module

variable {m : Module} {declared : Names} {name : String} {names : List String}

/-- The members of a module, each before the members within it. -/
def members (m : Module) : List Node := m.nodes.filter Node.isMember

/-- A walk that meets a phrase goes on with what stands within it. -/
private theorem nodes_isInfix {p n : Node} (h : p ∈ n.nodes) : p.nodes <:+: n.nodes := by
  rcases Node.mem_nodes_iff.1 h with rfl | ⟨q, hq, hp⟩
  · exact List.infix_refl _
  · obtain ⟨before, after, hsplit⟩ := List.append_of_mem hq
    rw [Node.nodes_eq n, hsplit, List.flatMap_append, List.flatMap_cons]
    refine (nodes_isInfix hp).trans ⟨n :: before.flatMap Node.nodes, after.flatMap Node.nodes, ?_⟩
    simp
termination_by sizeOf n
decreasing_by exact Node.sizeOf_lt_of_mem_parts hq

/-- **The members within a member follow it**, before any other. -/
theorem members_isInfix {n : Node} (h : n ∈ m.members) :
    n :: (n.parts.flatMap Node.nodes).filter Node.isMember <:+: m.members := by
  obtain ⟨hn, hmember⟩ := List.mem_filter.1 h
  obtain ⟨item, hitem, hn⟩ := List.mem_flatMap.1 hn
  obtain ⟨before, after, hsplit⟩ := List.append_of_mem hitem
  have hwalk : n.nodes <:+: m.nodes := by
    rw [nodes, hsplit, List.flatMap_append, List.flatMap_cons]
    exact (nodes_isInfix hn).trans ⟨before.flatMap Node.nodes, after.flatMap Node.nodes, by simp⟩
  have := hwalk.filter Node.isMember
  rwa [Node.nodes_eq, List.filter_cons_of_pos hmember] at this

/-- The variables that a module reads are read by its members. -/
theorem references_eq (m : Module) : m.references = m.members.filterMap Node.envName? := by
  rw [references, members, List.filterMap_filter]
  congr 1
  funext n
  cases hname : n.envName? with
  | none => simp
  | some name => simp [Node.isMember_of_envName? hname]

/-- **Searches in a row**: each of them finds a variable that is declared before the next one, and
the last one finds nothing. -/
inductive Exhausts (m : Module) : Names → List String → Prop
  | done {declared : Names} (h : m.firstUndeclared declared = none) : Exhausts m declared []
  | next {declared : Names} {name : String} {names : List String}
      (h : m.firstUndeclared declared = some name)
      (rest : Exhausts m (declared.insert name) names) : Exhausts m declared (name :: names)

/-! ### One search -/

/-- What a search finds is read before everything else that is not declared. -/
theorem idxOf_lt_of_firstUndeclared {other : String} (h : m.firstUndeclared declared = some name)
    (hnot : other ∉ declared) (hne : other ≠ name) :
    m.references.idxOf name < m.references.idxOf other := by
  rw [firstUndeclared_eq] at h
  obtain ⟨hname, before, after, hsplit, hbefore⟩ := List.find?_eq_some_iff_append.1 h
  have hdeclared : ∀ n ∈ before, n ∈ declared := by simpa using hbefore
  have hname : name ∉ before := fun hmem => by simp [hdeclared name hmem] at hname
  have hother : other ∉ before := fun hmem => hnot (hdeclared other hmem)
  rw [hsplit, List.idxOf_append, List.idxOf_append, if_neg hname, if_neg hother,
    List.idxOf_cons_self, List.idxOf_cons, beq_eq_false_iff_ne.2 hne.symm, cond_false]
  omega

/-- When nothing is found, nothing is left. -/
private theorem undeclared_of_none (h : m.firstUndeclared declared = none) :
    m.undeclared declared = [] := by
  have hall := firstUndeclared_eq_none_iff.1 h
  rw [undeclared, List.filter_eq_nil_iff.2 (by simpa using hall), List.eraseDups_nil]

/-- What is found is left, and once it is declared the others are. -/
private theorem undeclared_of_some (h : m.firstUndeclared declared = some name) :
    m.undeclared declared = name :: m.undeclared (declared.insert name) := by
  rw [firstUndeclared_eq, ← List.head?_filter] at h
  obtain ⟨rest, hrest⟩ := List.head?_eq_some_iff.1 h
  have hothers : (m.references.filter fun n => n ∉ declared.insert name) =
      rest.filter fun n => !n == name := by
    have hsplit : (fun n => decide (n ∉ declared.insert name)) =
        fun n => (!n == name) && decide (n ∉ declared) := by
      funext n
      by_cases hn : n = name <;> simp [hn]
    rw [hsplit, ← List.filter_filter, hrest, List.filter_cons_of_neg (by simp)]
  rw [undeclared, undeclared, hothers, hrest, List.eraseDups_cons]

/-! ### Searches in a row -/

/-- **Searches in a row come to an end**, in one way: with what is read and not declared. -/
theorem exhausts_iff : m.Exhausts declared names ↔ names = m.undeclared declared := by
  constructor
  · intro h
    induction h with
    | done h => rw [undeclared_of_none h]
    | next h _ ih => rw [undeclared_of_some h, ih]
  · intro h
    -- by induction on the names: each is the first undeclared one when those before it are declared
    induction names generalizing declared with
    | nil =>
      cases hfirst : m.firstUndeclared declared with
      | none => exact .done hfirst
      | some name => rw [undeclared_of_some hfirst] at h; exact nomatch h
    | cons name names ih =>
      cases hfirst : m.firstUndeclared declared with
      | none => rw [undeclared_of_none hfirst] at h; exact nomatch h
      | some other =>
        rw [undeclared_of_some hfirst] at h
        obtain ⟨rfl, hnames⟩ := List.cons.inj h
        exact .next hfirst (ih hnames)

/-- Searches in a row find what is read and not declared. -/
theorem mem_of_exhausts (h : m.Exhausts declared names) :
    name ∈ names ↔ m.Reads name ∧ name ∉ declared := by
  rw [exhausts_iff.1 h, undeclared, List.mem_eraseDups, List.mem_filter, mem_references_iff,
    decide_eq_true_iff]

/-- **Searches in a row find a variable before those that are read first after it.** The first of
them is before all the others by what one search does, and declaring it takes nothing from these. -/
theorem pairwise_of_exhausts (h : m.Exhausts declared names) :
    names.Pairwise fun a b => m.references.idxOf a < m.references.idxOf b := by
  induction h with
  | done => exact .nil
  | @next declared name names hfirst rest ih =>
    refine .cons (fun other hother => ?_) ih
    obtain ⟨-, hnot⟩ := (mem_of_exhausts rest).1 hother
    rw [Names.mem_insert, not_or] at hnot
    exact idxOf_lt_of_firstUndeclared hfirst hnot.2 hnot.1

/-- **A search finds the first variable, in the order of a walk, that a member reads and that is not
declared, and nothing just if there is none; and searches in a row, each answer declared before the
next one, end with the variables that are read and not declared**: each of them once, and in the
order in which the walk meets them first. The walk meets a member before the members within it. -/
theorem firstUndeclared_exhausts (m : Module) (declared : Names) :
    m.firstUndeclared declared = (m.members.filterMap Node.envName?).find? (· ∉ declared) ∧
    (∀ n ∈ m.members, n :: (n.parts.flatMap Node.nodes).filter Node.isMember <:+: m.members) ∧
    (m.firstUndeclared declared = none ↔
      ∀ n ∈ m.members, ∀ name, n.envName? = some name → name ∈ declared) ∧
    ∃ names, (∀ others, m.Exhausts declared others ↔ others = names) ∧
      names.Nodup ∧ (∀ name, name ∈ names ↔ m.Reads name ∧ name ∉ declared) ∧
      names.Pairwise fun a b =>
        (m.members.filterMap Node.envName?).idxOf a < (m.members.filterMap Node.envName?).idxOf b := by
  rw [← references_eq]
  refine ⟨firstUndeclared_eq m declared, fun _ => members_isInfix, ?_, m.undeclared declared,
    fun _ => exhausts_iff, ?_⟩
  · rw [firstUndeclared_eq_none_iff, references_eq]
    simp only [List.mem_filterMap]
    constructor
    · exact fun h n hn name hname => h name ⟨n, hn, hname⟩
    · rintro h name ⟨n, hn, hname⟩
      exact h n hn name hname
  · -- the names come in the order of their first members, so none comes twice
    have hrun : m.Exhausts declared (m.undeclared declared) := exhausts_iff.2 rfl
    have horder := pairwise_of_exhausts hrun
    refine ⟨horder.imp ?_, fun _ => mem_of_exhausts hrun, horder⟩
    rintro a b hlt rfl
    exact Nat.lt_irrefl _ hlt

end EnvSchema.Script.Module
