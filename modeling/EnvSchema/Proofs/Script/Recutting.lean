import EnvSchema.Proofs.Script.Cutting
import EnvSchema.Proofs.Text.Blank

/-!
# Cutting lines again

A text in which lines have been cut may be read and printed again. What is printed then has some of
the cuts already: those in literals, which are printed as they are written. The others, behind
comments, are made again. Here it is said when the same text comes of this.

* `cutLines_append` — a text is cut piece by piece, if lines end where pieces do;
* `BreaksTwice`, `breaksTwice_iff` — a line that is cut again after it has been cut starts with two
  ends of comments;
* `cutLines_keptText_iff` — **a text that has some of its cuts is cut to the same text** just if no
  line whose cut it has is cut twice.
-/

namespace EnvSchema.Script

/-! ### Cutting piece by piece -/

/-- A line ends in the same way when it has been cut. -/
theorem getLast?_breakLine (line : List Char) : (breakLine line).getLast? = line.getLast? := by
  by_cases h : Breaks line
  · obtain ⟨rest, hline, hrest⟩ := h
    have hne : rest ≠ [] := by
      rintro rfl
      exact hrest rfl
    rw [breakLine_of_breaks hline hrest]
    conv => rhs; rw [← Text.indent_append_trimStart line, hline]
    -- what is behind the mark is left as it is, and it is not empty
    have hlast : rest.getLast? = some (rest.getLast hne) := List.getLast?_eq_some_getLast hne
    simp [List.getLast?_append, List.getLast?_cons, hlast]
  · rw [breakLine_of_not_breaks h]

/-- **Pieces are cut one by one**, if a line ends where each of them does but the last one. -/
theorem cutLines_flatMap {α : Type} {pieces : List α} {f : α → List Char}
    (h : ∀ p ∈ pieces.dropLast, (f p).getLast? = some '\n') :
    cutLines (pieces.flatMap f) = pieces.flatMap fun p => cutLines (f p) := by
  unfold cutLines
  rw [Text.linesWithEnds_flatMap h, List.flatMap_assoc]

/-- **Two texts are cut one by one**, if a line ends where the first one does. -/
theorem cutLines_append {text more : List Char} (h : ∀ c ∈ text.getLast?, c = '\n') :
    cutLines (text ++ more) = cutLines text ++ cutLines more := by
  unfold cutLines
  rw [Text.linesWithEnds_append h, List.flatMap_append]

/-- A line of a text is cut as a line. -/
theorem cutLines_of_mem {text line : List Char} (h : line ∈ Text.linesWithEnds text) :
    cutLines line = breakLine line := by
  unfold cutLines
  rw [Text.linesWithEnds_of_mem h, List.flatMap_singleton]

/-- A text is cut to itself just if none of its lines is cut. -/
theorem cutLines_eq_self_iff {text : List Char} :
    cutLines text = text ↔ ∀ line ∈ Text.linesWithEnds text, ¬ Breaks line := by
  have h : breakAfterComments (String.ofList text) = String.ofList text ↔
      ∀ line ∈ Text.linesWithEnds (String.ofList text).toList, ¬ Breaks line :=
    breakAfterComments_eq_self_iff
  rw [String.toList_ofList] at h
  rw [← h, breakAfterComments, String.toList_ofList, String.ofList_inj]
  rfl

/-! ### Lines that are cut twice -/

/-- **A line is cut again** after it has been cut. -/
def BreaksTwice (line : List Char) : Prop := ∃ part ∈ Text.linesWithEnds (breakLine line), Breaks part

/-- Blanks in front of a line do not matter. -/
private theorem breaks_append_iff {u line : List Char} (hu : ∀ c ∈ u, Text.isBlank c = true) :
    Breaks (u ++ line) ↔ Breaks line := by
  unfold Breaks
  rw [show Text.trimStart (u ++ line) = Text.trimStart line from List.dropWhile_append_of_pos hu]

/-- What stands behind the first end of a comment with which a line starts. -/
private theorem behind_unique {line u v rest : List Char} (hu : ∀ c ∈ u, Text.isBlank c = true)
    (hline : line = u ++ '*' :: '/' :: ' ' :: v)
    (hrest : Text.trimStart line = '*' :: '/' :: ' ' :: rest) : v = rest := by
  have htrim : Text.trimStart line = '*' :: '/' :: ' ' :: v := by
    rw [hline, Text.trimStart, List.dropWhile_append_of_pos hu]
    rfl
  simpa using htrim.symm.trans hrest

/-- The two lines that a line is cut into. -/
private theorem linesWithEnds_breakLine {line rest : List Char} (h : Text.linesWithEnds line = [line])
    (hline : Text.trimStart line = '*' :: '/' :: ' ' :: rest) (hrest : Text.trim rest ≠ []) :
    ∃ outer, (∀ c ∈ outer, Text.isBlank c = true) ∧ Text.linesWithEnds (breakLine line) =
      [Text.indent line ++ ['*', '/', '\n'], outer ++ rest] := by
  have hpieces : line = (Text.indent line ++ ['*', '/', ' ']) ++ rest := by
    conv => lhs; rw [← Text.indent_append_trimStart line, hline]
    simp
  have hne : rest ≠ [] := by
    rintro rfl
    exact hrest rfl
  have hfeed : '\n' ∉ Text.indent line ++ ['*', '/', ' '] := not_mem_of_line h hpieces hne
  obtain ⟨outer, houter, hcut⟩ : ∃ outer, (∀ c ∈ outer, c ∈ Text.indent line) ∧
      breakLine line = (Text.indent line ++ ['*', '/', '\n']) ++ (outer ++ rest) := by
    refine ⟨_, ?_, (breakLine_of_breaks hline hrest).trans (List.append_assoc ..)⟩
    intro c hc
    split at hc
    · exact (List.dropLast_sublist _).subset hc
    · exact hc
  refine ⟨outer, fun c hc => List.all_eq_true.1 List.all_takeWhile c (houter c hc), ?_⟩
  -- the cut puts the first end of a line into the line; the second part ends as the line did
  have hfirst : Text.linesWithEnds (Text.indent line ++ ['*', '/', '\n']) =
      [Text.indent line ++ ['*', '/', '\n']] := by
    have hmark : '\n' ∉ Text.indent line ++ ['*', '/'] := by
      intro hmem
      refine hfeed (List.mem_append.2 ((List.mem_append.1 hmem).imp_right fun hmem => ?_))
      simp at hmem
    have hone := (Text.linesWithEnds_append_eq_singleton_iff hmark (List.cons_ne_nil '\n' [])).2 rfl
    rwa [List.append_assoc] at hone
  have hsecond : Text.linesWithEnds (outer ++ rest) = [outer ++ rest] := by
    have hindent : '\n' ∉ outer := fun hmem => hfeed (List.mem_append_left _ (houter _ hmem))
    rw [Text.linesWithEnds_append_eq_singleton_iff hindent hne,
      ← Text.linesWithEnds_append_eq_singleton_iff hfeed hne, ← hpieces]
    exact h
  have hends : ∀ c ∈ (Text.indent line ++ ['*', '/', '\n']).getLast?, c = '\n' := by
    intro c hc
    rw [List.getLast?_append] at hc
    exact (Option.some.inj hc).symm
  rw [hcut, Text.linesWithEnds_append hends, hfirst, hsecond]
  rfl

/-- **A line is cut again** just if it starts with two ends of comments, and something stands behind
them. -/
theorem breaksTwice_iff {line : List Char} (h : Text.linesWithEnds line = [line]) :
    BreaksTwice line ↔ ∃ u v, line = u ++ '*' :: '/' :: ' ' :: v ∧
      (∀ c ∈ u, Text.isBlank c = true) ∧ Breaks v := by
  by_cases hbreaks : Breaks line
  · obtain ⟨rest, hline, hrest⟩ := hbreaks
    obtain ⟨outer, houter, hlines⟩ := linesWithEnds_breakLine h hline hrest
    have hmark : ¬ Breaks (Text.indent line ++ ['*', '/', '\n']) := by
      have hindent : ∀ c ∈ Text.indent line, Text.isBlank c = true :=
        List.all_eq_true.1 List.all_takeWhile
      rw [breaks_append_iff hindent]
      rintro ⟨more, hmore, -⟩
      have hsame : ['*', '/', '\n'] = '*' :: '/' :: ' ' :: more := hmore
      simp at hsame
    -- the first of the two lines ends with its mark, so only the second one may be cut
    have htwice : BreaksTwice line ↔ Breaks rest := by
      unfold BreaksTwice
      rw [hlines]
      simp [hmark, breaks_append_iff houter]
    rw [htwice]
    constructor
    · intro hbehind
      refine ⟨Text.indent line, rest, ?_, List.all_eq_true.1 List.all_takeWhile, hbehind⟩
      rw [← hline, Text.indent_append_trimStart]
    · rintro ⟨u, v, hpieces, hu, hbehind⟩
      rwa [behind_unique hu hpieces hline] at hbehind
  · -- a line that is not cut at all does not start with the end of a comment
    refine iff_of_false ?_ ?_
    · rintro ⟨part, hpart, hb⟩
      rw [breakLine_of_not_breaks hbreaks, h, List.mem_singleton] at hpart
      exact hbreaks (hpart ▸ hb)
    · rintro ⟨u, v, hpieces, hu, hb⟩
      obtain ⟨u', v', rfl, -, -⟩ := breaks_iff.1 hb
      exact hbreaks (breaks_iff.2 ⟨u, _, hpieces, hu, '*', by simp, rfl⟩)

/-! ### Cuts that are kept -/

/-- Lines of which each is cut or not. -/
abbrev Marked := List (List Char × Bool)

/-- **The text of lines of which some are cut.** -/
def keptText (marked : Marked) : List Char :=
  marked.flatMap fun mark => if mark.2 then breakLine mark.1 else mark.1

/-- A text that has some of its cuts is cut line by line. -/
private theorem cutLines_keptText {text : List Char} {marked : Marked}
    (h : marked.map (·.1) = Text.linesWithEnds text) : cutLines (keptText marked) =
      marked.flatMap fun mark => cutLines (if mark.2 then breakLine mark.1 else mark.1) := by
  refine cutLines_flatMap fun mark hmark => ?_
  have hmem : mark.1 ∈ (Text.linesWithEnds text).dropLast := by
    rw [← h, ← List.map_dropLast]
    exact List.mem_map_of_mem hmark
  have hlast : mark.1.getLast? = some '\n' := Text.getLast?_of_mem_dropLast hmem
  split
  · rw [getLast?_breakLine, hlast]
  · exact hlast

/-- A line that has been cut has as many lines as before when it is cut again, and more if that does
something to it. -/
private theorem count_breakLine_le_cutLines (line : List Char) :
    (breakLine line).count '\n' ≤ (cutLines (breakLine line)).count '\n' ∧
      (BreaksTwice line → (breakLine line).count '\n' < (cutLines (breakLine line)).count '\n') := by
  have hcount := count_flatMap_breakLine (Text.linesWithEnds (breakLine line))
  rwa [Text.flatten_linesWithEnds] at hcount

/-- **A text that has some of its cuts is cut to the same text** just if no line whose cut it has is cut
twice. -/
theorem cutLines_keptText_iff {text : List Char} {marked : Marked}
    (h : marked.map (·.1) = Text.linesWithEnds text) :
    cutLines (keptText marked) = cutLines text ↔
      ∀ mark ∈ marked, mark.2 = true → ¬ BreaksTwice mark.1 := by
  have htext : cutLines text = marked.flatMap fun mark => breakLine mark.1 := by
    rw [cutLines, ← h, List.flatMap_map]
  have hline : ∀ mark ∈ marked, cutLines mark.1 = breakLine mark.1 := by
    intro mark hmark
    have hmem : mark.1 ∈ Text.linesWithEnds text := by
      rw [← h]
      exact List.mem_map_of_mem hmark
    exact cutLines_of_mem hmem
  rw [cutLines_keptText h, htext]
  constructor
  · -- a line that is cut twice would have made the text longer
    intro hsame mark hmark hcut htwice
    have hle : ∀ m ∈ marked, (breakLine m.1).count '\n' ≤
        (cutLines (if m.2 then breakLine m.1 else m.1)).count '\n' := by
      intro m hm
      split
      · exact (count_breakLine_le_cutLines m.1).1
      · exact Nat.le_of_eq (congrArg (List.count '\n') (hline m hm).symm)
    have hlt : (breakLine mark.1).count '\n' <
        (cutLines (if mark.2 then breakLine mark.1 else mark.1)).count '\n' := by
      rw [if_pos hcut]
      exact (count_breakLine_le_cutLines mark.1).2 htwice
    have hlonger := (count_flatMap_le marked hle).2 ⟨mark, hmark, hlt⟩
    rw [hsame] at hlonger
    exact Nat.lt_irrefl _ hlonger
  · -- the lines are the same one by one: cut once, or cut already and not cut again
    intro hnone
    rw [List.flatMap_def, List.flatMap_def]
    refine congrArg List.flatten (List.map_congr_left fun mark hmark => ?_)
    split
    next hcut =>
      exact cutLines_eq_self_iff.2 fun part hpart hb => hnone mark hmark hcut ⟨part, hpart, hb⟩
    next => exact hline mark hmark

/-- **A page has some of the cuts of another one**: those that are marked. -/
structure KeepsCuts (page : String) (marked : Marked) (page' : String) : Prop where
  lines : marked.map (·.1) = Text.linesWithEnds page.toList
  text : page'.toList = keptText marked

/-- A page without cuts has none of them. -/
theorem KeepsCuts.none (page : String) :
    KeepsCuts page ((Text.linesWithEnds page.toList).map fun line => (line, false)) page where
  lines := by rw [List.map_map]; exact List.map_id _
  text := by
    rw [keptText, List.flatMap_map]
    conv => lhs; rw [← Text.flatten_linesWithEnds page.toList]
    exact List.flatMap_id.symm

/-- **What is printed of a page that has some of the cuts** is what was printed before, just if no line
whose cut it has is cut twice. -/
theorem KeepsCuts.breakAfterComments_eq_iff {page page' : String} {marked : Marked}
    (h : KeepsCuts page marked page') :
    breakAfterComments page' = breakAfterComments page ↔
      ∀ mark ∈ marked, mark.2 = true → ¬ BreaksTwice mark.1 := by
  rw [← cutLines_keptText_iff h.lines, ← h.text]
  exact String.ofList_inj

end EnvSchema.Script
