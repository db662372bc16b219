import EnvSchema.Proofs.Text.Blank
import EnvSchema.Script.Printer.Whole

/-!
# Where printing cuts lines

A printed module is the text on its page, in which some lines have been cut: those that start with
the end of a comment behind which something stands. Nobody asks whether that end of a comment is one;
a line of a template or of a quoted text may start with the same characters.

* `Module.emitted` — the text on the page;
* `Breaks` — a line that is cut;
* `breakAfterComments_eq_self_iff` — a text stays as it is just if it has no such line.
-/

namespace EnvSchema.Script

/-- The text on the page of a module, before any line is cut. -/
def Module.emitted (m : Module) : String := (m.printItems.run { comments := m.comments }).2.text

/-- What is printed is the text on the page with its lines cut. -/
theorem Module.print_fst (m : Module) : m.print.1 = breakAfterComments m.emitted := rfl

/-- **A line is cut**: behind its blanks stands the end of a comment, and something behind that. -/
def Breaks (line : List Char) : Prop :=
  ∃ rest, Text.trimStart line = '*' :: '/' :: ' ' :: rest ∧ Text.trim rest ≠ []

/-- A line that is cut, in its pieces. -/
theorem breakLine_of_breaks {line rest : List Char}
    (h : Text.trimStart line = '*' :: '/' :: ' ' :: rest) (hrest : Text.trim rest ≠ []) :
    breakLine line = Text.indent line ++ ['*', '/', '\n'] ++
      (if (Text.indent line).getLast? = some ' ' then (Text.indent line).dropLast
        else Text.indent line) ++ rest := by
  unfold breakLine
  rw [h]
  simp [hrest]

/-- A line that is not cut stays as it is. -/
theorem breakLine_of_not_breaks {line : List Char} (h : ¬ Breaks line) : breakLine line = line := by
  unfold breakLine
  split
  · next rest hline =>
    split
    · rfl
    · next hrest => exact absurd ⟨rest, hline, by simpa using hrest⟩ h
  · rfl

/-! ### The characters of a line that is cut -/

/-- A line that is cut, in its pieces. -/
theorem breaks_iff {line : List Char} : Breaks line ↔
    ∃ u v, line = u ++ '*' :: '/' :: ' ' :: v ∧ (∀ c ∈ u, Text.isBlank c = true) ∧
      ∃ c ∈ v, Text.isBlank c = false := by
  constructor
  · rintro ⟨rest, hline, hrest⟩
    refine ⟨Text.indent line, rest, ?_, List.all_eq_true.1 List.all_takeWhile, Text.trim_ne_nil_iff.1 hrest⟩
    rw [← hline, Text.indent_append_trimStart]
  · rintro ⟨u, v, rfl, hu, hv⟩
    refine ⟨v, ?_, Text.trim_ne_nil_iff.2 hv⟩
    rw [Text.trimStart, List.dropWhile_append_of_pos hu]
    rfl

/-- A line that is cut is cut if it goes on. -/
theorem Breaks.append {line : List Char} (h : Breaks line) (more : List Char) : Breaks (line ++ more) := by
  obtain ⟨u, v, rfl, hu, c, hc, hblank⟩ := breaks_iff.1 h
  exact breaks_iff.2 ⟨u, v ++ more, by simp, hu, c, List.mem_append_left _ hc, hblank⟩

/-- The end of a line does not matter. -/
theorem breaks_newline_iff {line : List Char} : Breaks (line ++ ['\n']) ↔ Breaks line := by
  refine ⟨fun h => ?_, fun h => h.append _⟩
  obtain ⟨u, v, hline, hu, c, hc, hblank⟩ := breaks_iff.1 h
  -- the last character is the end of the line, which is a blank
  obtain ⟨w, d, rfl⟩ : ∃ w d, v = w ++ [d] := by
    obtain hv | hv := List.eq_nil_or_concat v
    · rw [hv] at hc
      cases hc
    · simpa using hv
  have hpieces : line ++ ['\n'] = (u ++ '*' :: '/' :: ' ' :: w) ++ [d] := by simpa using hline
  obtain ⟨rfl, hd⟩ := List.append_inj' hpieces rfl
  obtain rfl : d = '\n' := (List.cons.inj hd).1.symm
  refine breaks_iff.2 ⟨u, w, rfl, hu, c, ?_, hblank⟩
  obtain hw | hw := List.mem_append.1 hc
  · exact hw
  · rw [List.mem_singleton.1 hw] at hblank
    exact absurd hblank (by decide)

/-- The line that a text starts with. -/
def firstLine (text : List Char) : List Char := text.takeWhile (· ≠ '\n')

/-- The first of the lines of a text is the one that it starts with, with or without an end. -/
theorem line_eq_firstLine {text line : List Char} {lines : List (List Char)}
    (h : Text.linesWithEnds text = line :: lines) :
    line = firstLine text ∨ line = firstLine text ++ ['\n'] := by
  -- character by character, up to the end of the line or of the text
  induction text generalizing line lines with
  | nil => cases h
  | cons c text ih =>
    rw [Text.linesWithEnds] at h
    unfold firstLine at ih ⊢
    split at h
    · next hc =>
      obtain ⟨rfl, -⟩ := List.cons.inj h
      right
      rw [List.takeWhile_cons_of_neg (by simp [hc]), hc]
      rfl
    · next hc =>
      rw [List.takeWhile_cons_of_pos (by simp [hc])]
      split at h
      · next hnil =>
        obtain ⟨rfl, -⟩ := List.cons.inj h
        left
        have htext := Text.flatten_linesWithEnds text
        rw [hnil] at htext
        rw [← htext]
        rfl
      · next l ls hlines =>
        obtain ⟨rfl, -⟩ := List.cons.inj h
        obtain hl | hl := ih hlines
        · left
          rw [← hl]
        · right
          rw [hl, List.cons_append]

/-! ### How much longer a text becomes -/

/-- A line that is cut is longer by a line at least. -/
private theorem count_breakLine_of_breaks {line : List Char} (h : Breaks line) :
    line.count '\n' < (breakLine line).count '\n' := by
  obtain ⟨rest, hline, hrest⟩ := h
  have hcut : line = Text.indent line ++ ['*', '/', ' '] ++ rest := by
    conv => lhs; rw [← Text.indent_append_trimStart line, hline]
    simp
  have hlength : line.count '\n' = (Text.indent line).count '\n' + rest.count '\n' := by
    conv => lhs; rw [hcut]
    simp [List.count_append]
  rw [breakLine_of_breaks hline hrest, hlength]
  simp only [List.count_append]
  have hmark : ['*', '/', '\n'].count '\n' = 1 := rfl
  omega

/-- Cutting a line makes it no shorter. -/
private theorem count_breakLine_le (line : List Char) :
    line.count '\n' ≤ (breakLine line).count '\n' := by
  by_cases h : Breaks line
  · exact Nat.le_of_lt (count_breakLine_of_breaks h)
  · exact Nat.le_of_eq (congrArg (List.count '\n') (breakLine_of_not_breaks h).symm)

/-- What is put together of pieces has no fewer lines than what is put together of other pieces, none
of which has more; and if one of these has fewer, then the whole has. -/
theorem count_flatMap_le {α : Type} {f g : α → List Char} (pieces : List α)
    (h : ∀ p ∈ pieces, (f p).count '\n' ≤ (g p).count '\n') :
    (pieces.flatMap f).count '\n' ≤ (pieces.flatMap g).count '\n' ∧
      ((∃ p ∈ pieces, (f p).count '\n' < (g p).count '\n') →
        (pieces.flatMap f).count '\n' < (pieces.flatMap g).count '\n') := by
  induction pieces with
  | nil => simp
  | cons p pieces ih =>
    obtain ⟨hp, hpieces⟩ := List.forall_mem_cons.1 h
    obtain ⟨hle, hlt⟩ := ih hpieces
    rw [List.flatMap_cons, List.flatMap_cons, List.count_append, List.count_append]
    refine ⟨Nat.add_le_add hp hle, ?_⟩
    -- the piece that has fewer is the first one, or one of the others
    rintro ⟨q, hq, hfewer⟩
    rcases List.mem_cons.1 hq with rfl | hq
    · exact Nat.add_lt_add_of_lt_of_le hfewer hle
    · exact Nat.add_lt_add_of_le_of_lt hp (hlt ⟨q, hq, hfewer⟩)

/-- Cutting lines makes a text no shorter, and longer if one of them is cut. -/
theorem count_flatMap_breakLine (lines : List (List Char)) :
    lines.flatten.count '\n' ≤ (lines.flatMap breakLine).count '\n' ∧
      ((∃ line ∈ lines, Breaks line) →
        lines.flatten.count '\n' < (lines.flatMap breakLine).count '\n') := by
  obtain ⟨hle, hlt⟩ := count_flatMap_le (f := id) lines fun line _ => count_breakLine_le line
  rw [List.flatMap_id] at hle hlt
  refine ⟨hle, ?_⟩
  rintro ⟨line, hline, hb⟩
  exact hlt ⟨line, hline, count_breakLine_of_breaks hb⟩

/-- **A text stays as it is** just if none of its lines is cut. -/
theorem breakAfterComments_eq_self_iff {text : String} :
    breakAfterComments text = text ↔ ∀ line ∈ Text.linesWithEnds text.toList, ¬ Breaks line := by
  constructor
  · -- a text of which a line is cut has more lines
    intro h line hline hb
    have hlt := (count_flatMap_breakLine _).2 ⟨line, hline, hb⟩
    have hsame : (Text.linesWithEnds text.toList).flatMap breakLine = text.toList := by
      rw [← String.toList_ofList (l := (Text.linesWithEnds text.toList).flatMap breakLine)]
      exact congrArg String.toList h
    rw [hsame, Text.flatten_linesWithEnds] at hlt
    exact Nat.lt_irrefl _ hlt
  · intro h
    have hkeep : (Text.linesWithEnds text.toList).flatMap breakLine =
        (Text.linesWithEnds text.toList).flatten := by
      rw [List.flatMap_def]
      congr 1
      conv => rhs; rw [← List.map_id (Text.linesWithEnds text.toList)]
      exact List.map_congr_left fun line hline => breakLine_of_not_breaks (h line hline)
    rw [breakAfterComments, hkeep, Text.flatten_linesWithEnds, String.ofList_toList]

end EnvSchema.Script
