import Mathlib.Data.List.Basic
import Mathlib.Data.List.Flatten

/-!
# Pieces between separators

A list is its pieces with separators between them. So a piece is told by what stands around it, without
the others: a separator or nothing on each side.

* `not_mem_of_mem_splitOn`, `flatMap_splitOn` — there are no separators in the pieces, and the list is
  made of them;
* `mem_splitOn_iff` — the pieces of a list;
* `head?_splitOn_iff`, `getLast?_splitOn_iff` — the first and the last one of several pieces.
-/

namespace EnvSchema.Text

variable {α : Type} [BEq α] [LawfulBEq α] {a : α} {l piece : List α}

/-- There are no separators in what they separate. -/
theorem not_mem_of_mem_splitOn (h : piece ∈ l.splitOn a) : a ∉ piece := by
  induction l generalizing piece with
  | nil =>
    rw [List.splitOn_nil, List.mem_singleton] at h
    exact h ▸ List.not_mem_nil
  | cons b l ih =>
    rw [List.splitOn_cons_eq_if_modifyHead] at h
    split at h
    · rcases List.mem_cons.1 h with rfl | h
      · exact List.not_mem_nil
      · exact ih h
    · next hb =>
      obtain ⟨first, rest, hl⟩ := List.exists_cons_of_ne_nil (List.splitOn_ne_nil a l)
      rw [hl, List.modifyHead_cons] at h
      have hne : a ≠ b := fun hab => hb (by simp [hab])
      rcases List.mem_cons.1 h with rfl | h
      · rw [List.mem_cons, not_or]
        exact ⟨hne, ih (hl ▸ List.mem_cons_self)⟩
      · exact ih (hl ▸ List.mem_cons_of_mem _ h)

/-- **A list behind a separator** is its pieces with a separator before each of them. -/
theorem flatMap_splitOn (a : α) (l : List α) :
    ((l.splitOn a).flatMap fun piece => a :: piece) = a :: l := by
  induction l with
  | nil => rfl
  | cons b l ih =>
    rw [List.splitOn_cons_eq_if_modifyHead]
    split
    · next hb =>
      rw [List.flatMap_cons, ih, beq_iff_eq.1 hb]
      rfl
    · obtain ⟨first, rest, hl⟩ := List.exists_cons_of_ne_nil (List.splitOn_ne_nil a l)
      rw [hl, List.flatMap_cons, List.cons_append] at ih
      rw [hl, List.modifyHead_cons, List.flatMap_cons, List.cons_append, List.cons_append,
        List.tail_eq_of_cons_eq ih]

/-- A piece behind which a separator stands is followed by the pieces behind that. -/
private theorem splitOn_append (h : a ∉ piece) (after : List α) :
    (piece ++ a :: after).splitOn a = piece :: after.splitOn a := by
  rw [List.splitOn_append_cons_self, List.splitOn_eq_singleton h, List.singleton_append]

/-- **The pieces of a list** are the parts of it without separators that have a separator or nothing on
each side. -/
theorem mem_splitOn_iff : piece ∈ l.splitOn a ↔ a ∉ piece ∧ ∃ before after,
    l = before ++ piece ++ after ∧ (before = [] ∨ ∃ front, before = front ++ [a]) ∧
      (after = [] ∨ ∃ rest, after = a :: rest) := by
  constructor
  · intro h
    refine ⟨not_mem_of_mem_splitOn h, ?_⟩
    obtain ⟨left, right, hpieces⟩ := List.append_of_mem h
    have hlist := flatMap_splitOn a l
    rw [hpieces, List.flatMap_append, List.flatMap_cons] at hlist
    have hright : (right.flatMap fun piece => a :: piece) = [] ∨
        ∃ rest, (right.flatMap fun piece => a :: piece) = a :: rest := by
      cases right with
      | nil => exact .inl rfl
      | cons r right => exact .inr ⟨_, List.flatMap_cons⟩
    cases left with
    | nil => exact ⟨[], _, (List.tail_eq_of_cons_eq hlist).symm, .inl rfl, hright⟩
    | cons first left =>
      rw [List.flatMap_cons, List.cons_append, List.cons_append] at hlist
      refine ⟨first ++ (left.flatMap fun piece => a :: piece) ++ [a], _, ?_, .inr ⟨_, rfl⟩, hright⟩
      rw [← List.tail_eq_of_cons_eq hlist]
      simp
  · rintro ⟨hpiece, before, after, rfl, hbefore, hafter⟩
    have hfirst : piece ∈ (piece ++ after).splitOn a := by
      rcases hafter with rfl | ⟨rest, rfl⟩
      · rw [List.append_nil, List.splitOn_eq_singleton hpiece]
        exact List.mem_singleton_self _
      · rw [splitOn_append hpiece]
        exact List.mem_cons_self
    rcases hbefore with rfl | ⟨front, rfl⟩
    · exact hfirst
    · rw [List.append_assoc, List.append_assoc, List.singleton_append, List.splitOn_append_cons_self]
      exact List.mem_append_right _ hfirst

/-- **The first one of several pieces** is what comes before the first separator. -/
theorem head?_splitOn_iff : 2 ≤ (l.splitOn a).length ∧ (l.splitOn a).head? = some piece ↔
    a ∉ piece ∧ ∃ after, l = piece ++ a :: after := by
  constructor
  · rintro ⟨hlength, hhead⟩
    obtain ⟨rest, hpieces⟩ := List.head?_eq_some_iff.1 hhead
    refine ⟨not_mem_of_mem_splitOn (List.mem_of_head? hhead), ?_⟩
    have hlist := flatMap_splitOn a l
    rw [hpieces] at hlist hlength
    cases rest with
    | nil => simp at hlength
    | cons second rest =>
      rw [List.flatMap_cons, List.flatMap_cons, List.cons_append, List.cons_append] at hlist
      exact ⟨_, (List.tail_eq_of_cons_eq hlist).symm⟩
  · rintro ⟨hpiece, after, rfl⟩
    rw [splitOn_append hpiece]
    have hne := List.length_pos_iff.2 (List.splitOn_ne_nil a after)
    exact ⟨by rw [List.length_cons]; omega, rfl⟩

/-- **The last one of several pieces** is what comes behind the last separator. -/
theorem getLast?_splitOn_iff : 2 ≤ (l.splitOn a).length ∧ (l.splitOn a).getLast? = some piece ↔
    a ∉ piece ∧ ∃ before, l = before ++ a :: piece := by
  constructor
  · rintro ⟨hlength, hlast⟩
    obtain ⟨front, hpieces⟩ := List.getLast?_eq_some_iff.1 hlast
    refine ⟨not_mem_of_mem_splitOn (List.mem_of_getLast? hlast), ?_⟩
    have hlist := flatMap_splitOn a l
    rw [hpieces] at hlist hlength
    cases front with
    | nil => simp at hlength
    | cons first front =>
      rw [List.flatMap_append, List.flatMap_cons, List.flatMap_singleton, List.cons_append,
        List.cons_append] at hlist
      exact ⟨_, (List.tail_eq_of_cons_eq hlist).symm⟩
  · rintro ⟨hpiece, before, rfl⟩
    rw [List.splitOn_append_cons_self, List.splitOn_eq_singleton hpiece]
    have hne := List.length_pos_iff.2 (List.splitOn_ne_nil a before)
    exact ⟨by rw [List.length_append, List.length_singleton]; omega, by simp⟩

end EnvSchema.Text
