import EnvSchema.Text.Blank
import Mathlib.Data.List.Basic

/-!
# Blanks around a text, and its lines

* `trimStart_append`, `trimEnd_append`, `trim_append` — blanks around a text go, and what stands
  between others stays;
* `trim_ne_nil_iff` — when something is left;
* `linesWithEnds_append`, `linesWithEnds_flatMap` — the lines of several pieces, if lines end where
  pieces do;
* `linesWithEnds_of_not_mem` — a line is one line;
* `trim_withoutEnd` — what ends a line is blank.
-/

namespace EnvSchema.Text

variable {u v : List Char} {c : Char}

/-! ### Blanks around a text -/

/-- Nothing is left of a text behind its blanks just if it has nothing but blanks. -/
theorem trimStart_eq_nil_iff {text : List Char} :
    trimStart text = [] ↔ ∀ c ∈ text, isBlank c = true := by
  constructor
  · intro h c hc
    rw [← indent_append_trimStart text, h, List.append_nil] at hc
    exact List.all_eq_true.1 List.all_takeWhile c hc
  · intro h
    rw [trimStart, ← List.append_nil text, List.dropWhile_append_of_pos h]
    rfl

/-- Blanks before a text go. -/
theorem trimStart_append (h : ∀ c ∈ u, isBlank c = true) : trimStart (u ++ v) = trimStart v :=
  List.dropWhile_append_of_pos h

theorem trimStart_cons (h : isBlank c = false) : trimStart (c :: v) = c :: v := by
  rw [trimStart, List.dropWhile_cons, if_neg (by simp [h])]

/-- Blanks behind a text go. -/
theorem trimEnd_append (h : ∀ c ∈ v, isBlank c = true) : trimEnd (u ++ v) = trimEnd u := by
  have hreverse : ∀ c ∈ v.reverse, isBlank c = true := fun c hc => h c (List.mem_reverse.1 hc)
  rw [trimEnd, List.reverse_append, List.dropWhile_append_of_pos hreverse]
  rfl

/-- What stands before something else than a blank stays. -/
theorem trimEnd_append_cons (h : isBlank c = false) : trimEnd (u ++ c :: v) = u ++ c :: trimEnd v := by
  rw [trimEnd, List.reverse_append, List.reverse_cons, List.append_assoc, List.singleton_append,
    List.dropWhile_append]
  split
  · next hnone =>
    rw [List.isEmpty_iff] at hnone
    rw [trimEnd, hnone, List.dropWhile_cons, if_neg (by simp [h])]
    simp
  · simp [trimEnd]

/-- Blanks behind a text go with the other blanks around it. -/
theorem trim_append_right (h : ∀ c ∈ v, isBlank c = true) : trim (u ++ v) = trim u := by
  rw [trim, trim, trimStart, List.dropWhile_append]
  split
  · next hnone =>
    have hv : v.dropWhile isBlank = [] := trimStart_eq_nil_iff.2 h
    rw [hv, trimStart, List.isEmpty_iff.1 hnone]
  · exact trimEnd_append h

/-- **A text without blanks stays**, and blanks around it go. -/
theorem trim_append {w : List Char} (hu : ∀ c ∈ u, isBlank c = true) (hw : ∀ c ∈ w, isBlank c = true)
    (hv : ∀ c ∈ v, isBlank c = false) : trim (u ++ v ++ w) = v := by
  rw [trim_append_right hw, trim, trimStart_append hu]
  cases v with
  | nil => rfl
  | cons c v =>
    obtain ⟨hc, -⟩ := List.forall_mem_cons.1 hv
    obtain ⟨front, last, hlast⟩ := (List.eq_nil_or_concat' (c :: v)).resolve_left (List.cons_ne_nil _ _)
    have hblank : isBlank last = false := hv last (hlast ▸ by simp)
    rw [trimStart_cons hc, hlast, trimEnd_append_cons hblank]
    rfl

/-- Something is left of a text without the blanks around it just if it has something else. -/
theorem trim_ne_nil_iff {text : List Char} :
    trim text ≠ [] ↔ ∃ c ∈ text, isBlank c = false := by
  have hnil : trim text = [] ↔ ∀ c ∈ text, isBlank c = true := by
    rw [trim, trimEnd, List.reverse_eq_nil_iff]
    refine trimStart_eq_nil_iff.trans ⟨fun h => ?_, fun h c hc => h c ?_⟩
    · intro c hc
      rw [← indent_append_trimStart text, List.mem_append] at hc
      obtain hc | hc := hc
      · exact List.all_eq_true.1 List.all_takeWhile c hc
      · exact h c (List.mem_reverse.2 hc)
    · exact (List.dropWhile_sublist _).subset (List.mem_reverse.1 hc)
  rw [Ne, hnil]
  simp

/-! ### Lines of pieces -/

/-- A text that is not empty has a line. -/
theorem linesWithEnds_ne_nil {text : List Char} (h : text ≠ []) : linesWithEnds text ≠ [] := by
  intro hnil
  have htext := flatten_linesWithEnds text
  rw [hnil] at htext
  exact h htext.symm

/-- **The lines of a text** by its first character, which ends a line or belongs to the next one. -/
private theorem linesWithEnds_cons_cases (c : Char) (cs : List Char) :
    c = '\n' ∧ linesWithEnds (c :: cs) = [c] :: linesWithEnds cs ∨
      c ≠ '\n' ∧ linesWithEnds cs = [] ∧ linesWithEnds (c :: cs) = [[c]] ∨
      c ≠ '\n' ∧ ∃ l ls, linesWithEnds cs = l :: ls ∧ linesWithEnds (c :: cs) = (c :: l) :: ls := by
  rw [linesWithEnds]
  by_cases hc : c = '\n'
  · rw [if_pos hc]
    exact .inl ⟨hc, rfl⟩
  · rw [if_neg hc]
    cases hlines : linesWithEnds cs with
    | nil => exact .inr (.inl ⟨hc, rfl, rfl⟩)
    | cons l ls => exact .inr (.inr ⟨hc, l, ls, rfl, rfl⟩)

/-- What a text ends with, with a character more in front of it. -/
private theorem getLast?_cons_of {c d : Char} {cs : List Char} (h : cs.getLast? = some d) :
    (c :: cs).getLast? = some d := by
  rw [List.getLast?_cons, h]
  rfl

/-- **The lines of two texts** are those of the first one and those of the second one, if a line ends
where the first one does. -/
theorem linesWithEnds_append {text more : List Char} (h : ∀ c ∈ text.getLast?, c = '\n') :
    linesWithEnds (text ++ more) = linesWithEnds text ++ linesWithEnds more := by
  induction text with
  | nil => rfl
  | cons c cs ih =>
    have hcs : ∀ d ∈ cs.getLast?, d = '\n' := fun d hd => h d (getLast?_cons_of hd)
    rw [List.cons_append, linesWithEnds, linesWithEnds, ih hcs]
    by_cases hc : c = '\n'
    · rw [if_pos hc, if_pos hc, List.cons_append]
    · rw [if_neg hc, if_neg hc]
      -- the line that this character belongs to ends within the first text
      have hne : cs ≠ [] := by
        rintro rfl
        exact hc (h c rfl)
      obtain ⟨l, ls, hlines⟩ := List.exists_cons_of_ne_nil (linesWithEnds_ne_nil hne)
      rw [hlines]
      rfl

/-- Every line but the last one ends with a line feed. -/
theorem getLast?_of_mem_dropLast {text line : List Char} (h : line ∈ (linesWithEnds text).dropLast) :
    line.getLast? = some '\n' := by
  induction text generalizing line with
  | nil => cases h
  | cons c cs ih =>
    -- a first character ends a line, is all of the last one, or belongs to the line behind it
    rcases linesWithEnds_cons_cases c cs with ⟨rfl, hlines⟩ | ⟨-, -, hlines⟩ | ⟨-, l, ls, hcs, hlines⟩
    · rw [hlines] at h
      cases hcs : linesWithEnds cs with
      | nil =>
        rw [hcs] at h
        cases h
      | cons l ls =>
        rw [hcs, List.dropLast_cons_cons] at h
        rcases List.mem_cons.1 h with rfl | h
        · rfl
        · exact ih (hcs ▸ h)
    · rw [hlines] at h
      cases h
    · rw [hlines] at h
      rw [hcs] at ih
      cases ls with
      | nil => cases h
      | cons l' ls =>
        rw [List.dropLast_cons_cons] at h ih
        rcases List.mem_cons.1 h with rfl | h
        · exact getLast?_cons_of (ih (List.mem_cons_self ..))
        · exact ih (List.mem_cons_of_mem _ h)

/-- A line of a text is one line. -/
theorem linesWithEnds_of_mem {text line : List Char} (h : line ∈ linesWithEnds text) :
    linesWithEnds line = [line] := by
  induction text generalizing line with
  | nil => cases h
  | cons c cs ih =>
    rcases linesWithEnds_cons_cases c cs with ⟨rfl, hlines⟩ | ⟨hc, -, hlines⟩ | ⟨hc, l, ls, hcs, hlines⟩
    · rw [hlines] at h
      rcases List.mem_cons.1 h with rfl | h
      · rfl
      · exact ih h
    · rw [hlines] at h
      rw [List.mem_singleton.1 h, linesWithEnds, if_neg hc]
      rfl
    · rw [hlines] at h
      rw [hcs] at ih
      rcases List.mem_cons.1 h with rfl | h
      · rw [linesWithEnds, if_neg hc, ih (List.mem_cons_self ..)]
      · exact ih (List.mem_cons_of_mem _ h)

/-- What is one line is one line behind characters that end none, and the other way round. -/
theorem linesWithEnds_append_eq_singleton_iff {u v : List Char} (hu : '\n' ∉ u) (hv : v ≠ []) :
    linesWithEnds (u ++ v) = [u ++ v] ↔ linesWithEnds v = [v] := by
  induction u with
  | nil => rfl
  | cons c u ih =>
    obtain ⟨hc, hu⟩ := not_or.1 (fun h => hu (List.mem_cons.2 h))
    rw [← ih hu, List.cons_append, linesWithEnds, if_neg (Ne.symm hc)]
    obtain ⟨l, ls, hlines⟩ := List.exists_cons_of_ne_nil
      (linesWithEnds_ne_nil (List.append_ne_nil_of_right_ne_nil u hv))
    rw [hlines]
    simp

/-- Characters that end no line are one line. -/
theorem linesWithEnds_of_not_mem {line : List Char} (h : '\n' ∉ line) (hne : line ≠ []) :
    linesWithEnds line = [line] := by
  obtain ⟨front, last, rfl⟩ := (List.eq_nil_or_concat' line).resolve_left hne
  rw [List.mem_append, not_or, List.mem_singleton] at h
  refine (linesWithEnds_append_eq_singleton_iff h.1 (List.cons_ne_nil last [])).2 ?_
  rw [linesWithEnds, if_neg (Ne.symm h.2)]
  rfl

/-- The lines of several pieces, if a line ends where each of them does but the last one. -/
theorem linesWithEnds_flatMap {α : Type} {pieces : List α} {f : α → List Char}
    (h : ∀ p ∈ pieces.dropLast, (f p).getLast? = some '\n') :
    linesWithEnds (pieces.flatMap f) = pieces.flatMap fun p => linesWithEnds (f p) := by
  induction pieces with
  | nil => rfl
  | cons p pieces ih =>
    cases pieces with
    | nil => simp
    | cons q pieces =>
      rw [List.dropLast_cons_cons, List.forall_mem_cons] at h
      have hp : ∀ c ∈ (f p).getLast?, c = '\n' := by
        intro c hc
        rw [h.1] at hc
        exact (Option.some.inj hc).symm
      rw [List.flatMap_cons, linesWithEnds_append hp, ih h.2, List.flatMap_cons]
      rfl

/-- **What ends a line is blank**, so it goes with the blanks around the line. -/
theorem trim_withoutEnd (line : List Char) : trim (withoutEnd line) = trim line := by
  have hline (ends cs : List Char) (h : line.reverse = ends ++ cs)
      (hends : ∀ c ∈ ends, isBlank c = true) : trim cs.reverse = trim line := by
    have hsame : line = cs.reverse ++ ends.reverse := by
      rw [← List.reverse_append, ← h, List.reverse_reverse]
    rw [hsame, trim_append_right fun c hc => hends c (List.mem_reverse.1 hc)]
  unfold withoutEnd
  split
  · next cs h => exact hline ['\n', '\r'] cs h (List.all_eq_true.1 (by decide))
  · next cs _ h => exact hline ['\n'] cs h (List.all_eq_true.1 (by decide))
  · rfl

end EnvSchema.Text
