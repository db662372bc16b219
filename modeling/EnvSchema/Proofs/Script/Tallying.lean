import EnvSchema.Proofs.Script.Recutting
import EnvSchema.Proofs.Text.Pieces

/-!
# What cutting lines keeps, and what it adds

A text is what stands between its line feeds. Where such a line is cut, a line feed is added, and some
blanks before the end of the comment are written a second time behind it; so whoever reads past blanks
meets the same characters in the same order.

* `cutLines_of_not_mem`, `cutLines_append_newline` — a text is cut line by line;
* `visible_cutLines` — the characters that are no blanks stay;
* `count_cutLines` — for each line that is cut there is one line feed more;
* `breakAfterComments_keeps` — all of it, for the text of a module.
-/

namespace EnvSchema.Script

variable {line text : List Char}

instance (line : List Char) : Decidable (Breaks line) :=
  if h : ['*', '/', ' '] <+: Text.trimStart line then
    decidable_of_iff (Text.trim ((Text.trimStart line).drop 3) ≠ []) <| by
      obtain ⟨rest, hrest⟩ := h
      simp [Breaks, ← hrest]
  else .isFalse fun ⟨rest, hrest, _⟩ => h ⟨rest, hrest.symm⟩

/-! ### Line by line -/

/-- **A text is read line by line**: the last line is not ended, and the others are. -/
theorem lines_induction {motive : List Char → Prop} (last : ∀ line, '\n' ∉ line → motive line)
    (ended : ∀ line rest, '\n' ∉ line → motive rest → motive (line ++ '\n' :: rest))
    (text : List Char) : motive text := by
  induction h : text.length using Nat.strongRecOn generalizing text with
  | ind n ih =>
    by_cases hmem : '\n' ∈ text
    · obtain ⟨line, rest, rfl, hline⟩ := List.eq_append_cons_of_mem hmem
      refine ended line rest hline (ih rest.length ?_ rest rfl)
      rw [← h, List.length_append, List.length_cons]
      omega
    · exact last text hmem

/-- The lines of a text of which the first is ended. -/
theorem splitOn_append_newline (h : '\n' ∉ line) (rest : List Char) :
    (line ++ '\n' :: rest).splitOn '\n' = line :: rest.splitOn '\n' := by
  rw [List.splitOn_append_cons_self, List.splitOn_eq_singleton h, List.singleton_append]

/-- A text of one line is cut as that line. -/
theorem cutLines_of_not_mem (h : '\n' ∉ line) : cutLines line = breakLine line := by
  by_cases hne : line = []
  · subst hne
    rfl
  · rw [cutLines, Text.linesWithEnds_of_not_mem h hne, List.flatMap_singleton]

/-- **A text of which the first line is ended** is cut as that line and the rest. -/
theorem cutLines_append_newline (h : '\n' ∉ line) (rest : List Char) :
    cutLines (line ++ '\n' :: rest) = breakLine (line ++ ['\n']) ++ cutLines rest := by
  have hline : Text.linesWithEnds (line ++ ['\n']) = [line ++ ['\n']] :=
    (Text.linesWithEnds_append_eq_singleton_iff h (List.cons_ne_nil _ _)).2 rfl
  have hlast : ∀ c ∈ (line ++ ['\n']).getLast?, c = '\n' := by simp
  rw [List.append_cons, cutLines_append hlast]
  congr 1
  rw [cutLines, hline, List.flatMap_singleton]

/-! ### What is kept -/

/-- **What is not blank** in a text. -/
def visible (text : List Char) : List Char := text.filter fun c => !Text.isBlank c

@[simp] theorem visible_append (u v : List Char) : visible (u ++ v) = visible u ++ visible v :=
  List.filter_append u v

/-- Nothing of blanks is kept. -/
theorem visible_of_isBlank (h : ∀ c ∈ text, Text.isBlank c = true) : visible text = [] :=
  List.filter_eq_nil_iff.2 fun c hc => by simp [h c hc]

/-- The blanks that are written again behind the end of a comment. -/
private def outer (u : List Char) : List Char := if u.getLast? = some ' ' then u.dropLast else u

private theorem mem_of_mem_outer {u : List Char} {c : Char} (h : c ∈ outer u) : c ∈ u := by
  unfold outer at h
  split at h
  · exact List.dropLast_subset u h
  · exact h

/-- A line that is cut, by what stands before and behind the end of the comment. -/
private theorem breakLine_mark {u v : List Char} (hu : ∀ c ∈ u, Text.isBlank c = true)
    (hv : ∃ c ∈ v, Text.isBlank c = false) :
    breakLine (u ++ '*' :: '/' :: ' ' :: v) = u ++ ['*', '/', '\n'] ++ outer u ++ v := by
  have hindent : Text.indent (u ++ '*' :: '/' :: ' ' :: v) = u := by
    rw [Text.indent, List.takeWhile_append_of_pos hu]
    exact List.append_nil u
  have htrim : Text.trimStart (u ++ '*' :: '/' :: ' ' :: v) = '*' :: '/' :: ' ' :: v := by
    rw [Text.trimStart_append hu]
    rfl
  rw [breakLine_of_breaks htrim (Text.trim_ne_nil_iff.2 hv), hindent, outer]

/-- A line keeps what is not blank when it is cut. -/
theorem visible_breakLine (line : List Char) : visible (breakLine line) = visible line := by
  by_cases h : Breaks line
  · obtain ⟨u, v, rfl, hu, hv⟩ := breaks_iff.1 h
    have hmark : visible ['*', '/', '\n'] = ['*', '/'] := by decide
    have hpieces : u ++ '*' :: '/' :: ' ' :: v = u ++ ['*', '/', ' '] ++ v := by simp
    rw [breakLine_mark hu hv, hpieces]
    simp only [visible_append, visible_of_isBlank hu,
      visible_of_isBlank fun c hc => hu c (mem_of_mem_outer hc), hmark, List.nil_append, List.append_nil]
    rfl
  · rw [breakLine_of_not_breaks h]

/-- **A text keeps what is not blank** when its lines are cut. -/
theorem visible_cutLines (text : List Char) : visible (cutLines text) = visible text := by
  induction text using lines_induction with
  | last line hline => rw [cutLines_of_not_mem hline, visible_breakLine]
  | ended line rest hline ih =>
    rw [cutLines_append_newline hline, visible_append, visible_breakLine, ih, ← visible_append,
      ← List.append_cons]

/-! ### What is added -/

/-- A line that is cut has one line feed more. -/
theorem count_breakLine (h : Text.linesWithEnds line = [line]) :
    (breakLine line).count '\n' = line.count '\n' + if Breaks line then 1 else 0 := by
  by_cases hb : Breaks line
  · obtain ⟨u, v, rfl, hu, hv⟩ := breaks_iff.1 hb
    -- the blanks before the end of a comment are on the same line
    have hmem : '\n' ∉ u := not_mem_of_line h rfl (List.cons_ne_nil _ _)
    have houter : '\n' ∉ outer u := mt mem_of_mem_outer hmem
    rw [if_pos hb, breakLine_mark hu hv]
    simp only [List.count_append, List.count_cons, List.count_eq_zero.2 hmem, List.count_eq_zero.2 houter]
    simp
    omega
  · rw [if_neg hb, breakLine_of_not_breaks hb, Nat.add_zero]

/-- **A text has one line feed more for each line that is cut.** -/
theorem count_cutLines (text : List Char) :
    (cutLines text).count '\n' =
      text.count '\n' + (text.splitOn '\n').countP fun line => Breaks line := by
  induction text using lines_induction with
  | last line hline =>
    by_cases hne : line = []
    · subst hne
      decide
    · rw [cutLines_of_not_mem hline, count_breakLine (Text.linesWithEnds_of_not_mem hline hne),
        List.splitOn_eq_singleton hline, List.countP_singleton]
      simp
  | ended line rest hline ih =>
    have hended : Text.linesWithEnds (line ++ ['\n']) = [line ++ ['\n']] :=
      (Text.linesWithEnds_append_eq_singleton_iff hline (List.cons_ne_nil _ _)).2 rfl
    have hcount : (line ++ '\n' :: rest).count '\n' = (line ++ ['\n']).count '\n' + rest.count '\n' := by
      rw [← List.count_append, ← List.append_cons]
    -- the first line is cut on its own, and what is behind it as a text
    calc (cutLines (line ++ '\n' :: rest)).count '\n'
      _ = (breakLine (line ++ ['\n'])).count '\n' + (cutLines rest).count '\n' := by
        rw [cutLines_append_newline hline, List.count_append]
      _ = ((line ++ ['\n']).count '\n' + if Breaks line then 1 else 0) +
            (rest.count '\n' + (rest.splitOn '\n').countP fun line => Breaks line) := by
        rw [count_breakLine hended, ih]
        simp only [breaks_newline_iff]
      _ = (line ++ '\n' :: rest).count '\n' +
            ((line ++ '\n' :: rest).splitOn '\n').countP fun line => Breaks line := by
        rw [splitOn_append_newline hline, List.countP_cons, hcount]
        simp only [decide_eq_true_eq]
        omega

/-- A text of which no line is cut stays as it is. -/
theorem cutLines_eq_self (h : ∀ line ∈ text.splitOn '\n', ¬ Breaks line) : cutLines text = text := by
  induction text using lines_induction with
  | last line hline =>
    rw [List.splitOn_eq_singleton hline, List.forall_mem_singleton] at h
    rw [cutLines_of_not_mem hline, breakLine_of_not_breaks h]
  | ended line rest hline ih =>
    rw [splitOn_append_newline hline, List.forall_mem_cons] at h
    rw [cutLines_append_newline hline, ih h.2, breakLine_of_not_breaks (mt breaks_newline_iff.1 h.1),
      ← List.append_cons]

/-! ### Texts of modules -/

/-- **What putting what follows a comment on a line of its own keeps and adds**: what is not blank
stays, there is one line feed more for each line that starts with the end of a comment behind which
something stands, a text without such lines stays as it is, and texts are treated one by one where the
first one ends with a line. -/
theorem breakAfterComments_keeps (text : String) :
    visible (breakAfterComments text).toList = visible text.toList ∧
      (breakAfterComments text).toList.count '\n' =
        text.toList.count '\n' + (text.toList.splitOn '\n').countP (fun line => Breaks line) ∧
      ((∀ line ∈ text.toList.splitOn '\n', ¬ Breaks line) → breakAfterComments text = text) ∧
      ∀ first second : String, (first = "" ∨ ∃ front, first = front ++ "\n") →
        breakAfterComments (first ++ second) = breakAfterComments first ++ breakAfterComments second := by
  have htext (text : String) : (breakAfterComments text).toList = cutLines text.toList := by
    rw [breakAfterComments, String.toList_ofList, cutLines]
  refine ⟨?_, ?_, fun h => ?_, fun first second hfirst => ?_⟩
  · rw [htext, visible_cutLines]
  · rw [htext, count_cutLines]
  · rw [← String.toList_inj, htext, cutLines_eq_self h]
  · -- the first text is empty, or a line ends where it does
    have hlast : ∀ c ∈ first.toList.getLast?, c = '\n' := by
      rcases hfirst with rfl | ⟨front, rfl⟩
      · simp
      · simp
    rw [← String.toList_inj, String.toList_append, htext, htext, htext, String.toList_append,
      cutLines_append hlast]

/-- A text with an indented end of a comment before a statement, and one in a line of its own. -/
theorem breakAfterComments_keeps_two :
    (∀ line ∈ " */\n".toList.splitOn '\n', ¬ Breaks line) ∧ breakAfterComments " */\n" = " */\n" ∧
      (("/*\n" : String) = "" ∨ ∃ front, "/*\n" = front ++ "\n") ∧
      breakAfterComments ("/*\n" ++ "\t */ a;\n") =
        breakAfterComments "/*\n" ++ breakAfterComments "\t */ a;\n" ∧
      (breakAfterComments "/*\n\t */ a;\n").toList.count '\n' = 3 := by
  have hnone : ∀ line ∈ " */\n".toList.splitOn '\n', ¬ Breaks line := by decide
  have hended : ("/*\n" : String) = "" ∨ ∃ front, "/*\n" = front ++ "\n" := .inr ⟨"/*", rfl⟩
  refine ⟨hnone, (breakAfterComments_keeps _).2.2.1 hnone, hended,
    (breakAfterComments_keeps "").2.2.2 _ _ hended, ?_⟩
  rw [(breakAfterComments_keeps _).2.1]
  decide

end EnvSchema.Script
