import EnvSchema.Proofs.Script.Breaking
import EnvSchema.Proofs.Script.Spelling

/-!
# A text and its lines cut

When a text is read from some place on, what is ahead of that place has been cut as well, but for the
rest of the line: a line is cut at its start only.

* `cutAhead` — the text ahead of a place within a line, with the lines behind it cut;
* `cutLines_cases` — what happens to a text that starts a line;
* `cutAhead_blanks`, `cutAhead_comment_blanks` — blanks stay as they are, and a comment does, but for
  the blanks behind it;
* `exists_cutAhead_of_settled` — what is printed goes on, from any such place, with the text ahead cut;
* `not_breaks_of_prefix` — a text that starts both with something and with its lines cut has no line
  in it that is cut.
-/

namespace EnvSchema.Script

/-! ### What is ahead of a place within a line -/

/-- A text with its lines cut. -/
def cutLines (text : List Char) : List Char := (Text.linesWithEnds text).flatMap breakLine

/-- **The text ahead of a place within a line**, with the lines behind that one cut. -/
def cutAhead (ahead : List Char) : List Char :=
  match Text.linesWithEnds ahead with
  | [] => []
  | line :: lines => line ++ lines.flatMap breakLine

/-- **The end of a comment is ahead**, with something behind it and nothing but blanks before it. -/
def AtMark (ahead : List Char) : Prop := ∃ t, Text.trimStart ahead = '*' :: '/' :: ' ' :: t

theorem cutAhead_cons {c : Char} {cs : List Char} (hc : c ≠ '\n') :
    cutAhead (c :: cs) = c :: cutAhead cs := by
  unfold cutAhead
  rw [Text.linesWithEnds, if_neg hc]
  cases Text.linesWithEnds cs <;> rfl

theorem cutAhead_newline {cs : List Char} : cutAhead ('\n' :: cs) = '\n' :: cutLines cs := by
  unfold cutAhead
  rw [Text.linesWithEnds, if_pos rfl]
  rfl

/-- A text within a line is not cut. -/
theorem cutAhead_append_of_not_mem {u v : List Char} (hu : '\n' ∉ u) :
    cutAhead (u ++ v) = u ++ cutAhead v := by
  induction u with
  | nil => rfl
  | cons c u ih =>
    obtain ⟨hc, hu⟩ := not_or.1 (mt List.mem_cons.2 hu)
    rw [List.cons_append, cutAhead_cons (Ne.symm hc), ih hu, List.cons_append]

/-- A line ends at its end only. -/
theorem not_mem_of_line {text line u v : List Char} {lines : List (List Char)}
    (h : Text.linesWithEnds text = line :: lines) (hline : line = u ++ v) (hv : v ≠ []) :
    '\n' ∉ u := by
  induction text generalizing line lines u with
  | nil => cases h
  | cons c text ih =>
    rw [Text.linesWithEnds] at h
    cases u with
    | nil => exact List.not_mem_nil
    | cons d u =>
      -- the text is one of three kinds: it starts with the end of a line, has one line only, or goes on
      split at h
      · obtain ⟨rfl, -⟩ := List.cons.inj h
        have hnil := (List.cons.inj hline).2
        exact absurd (List.append_eq_nil_iff.1 hnil.symm).2 hv
      · next hc =>
        split at h
        · obtain ⟨rfl, -⟩ := List.cons.inj h
          have hnil := (List.cons.inj hline).2
          exact absurd (List.append_eq_nil_iff.1 hnil.symm).2 hv
        · next l ls hlines =>
          obtain ⟨rfl, -⟩ := List.cons.inj h
          obtain ⟨rfl, hl⟩ := List.cons.inj hline
          exact not_or.2 ⟨Ne.symm hc, ih hlines hl⟩ ∘ List.mem_cons.1

/-- The first line of a text and the other ones. -/
private theorem cutAhead_of_lines {text u v : List Char} {lines : List (List Char)}
    (h : Text.linesWithEnds text = (u ++ v) :: lines) (hv : v ≠ []) :
    text = u ++ (v ++ lines.flatten) ∧ cutAhead (v ++ lines.flatten) = v ++ lines.flatMap breakLine := by
  have htext : text = u ++ (v ++ lines.flatten) := by
    rw [← Text.flatten_linesWithEnds text, h, List.flatten_cons, List.append_assoc]
  have hcut : cutAhead text = u ++ (v ++ lines.flatMap breakLine) := by
    rw [cutAhead, h]
    exact List.append_assoc u v _
  refine ⟨htext, ?_⟩
  rw [htext, cutAhead_append_of_not_mem (not_mem_of_line h rfl hv)] at hcut
  exact List.append_cancel_left hcut

/-- **A text that starts a line** is cut behind the end of a comment with which the line starts, or
as from within the line. -/
theorem cutLines_cases (text : List Char) :
    (¬ Breaks (firstLine text) ∧ cutLines text = cutAhead text) ∨
    ∃ u w v, text = u ++ '*' :: '/' :: ' ' :: v ∧ (∀ c ∈ u, Text.isBlank c = true) ∧ '\n' ∉ u ∧
      (∀ c ∈ w, c ∈ u) ∧ cutLines text = u ++ '*' :: '/' :: '\n' :: (w ++ cutAhead v) := by
  cases hlines : Text.linesWithEnds text with
  | nil =>
    left
    have htext := Text.flatten_linesWithEnds text
    rw [hlines] at htext
    refine ⟨?_, by rw [cutLines, cutAhead, hlines]; rfl⟩
    rw [← htext]
    rintro ⟨rest, hline, -⟩
    cases hline
  | cons line lines =>
    by_cases h : Breaks line
    · right
      -- the mark is in the first line, for something of that line stands behind it
      obtain ⟨rest, hline, hrest⟩ := h
      have hpieces : line = (Text.indent line ++ ['*', '/', ' ']) ++ rest := by
        conv => lhs; rw [← Text.indent_append_trimStart line, hline]
        simp
      have hne : rest ≠ [] := by
        rintro rfl
        exact hrest rfl
      have hnot : '\n' ∉ Text.indent line ++ ['*', '/', ' '] := not_mem_of_line hlines hpieces hne
      rw [hpieces] at hlines
      obtain ⟨htext, hcut⟩ := cutAhead_of_lines hlines hne
      rw [← hpieces] at hlines
      refine ⟨Text.indent line, if (Text.indent line).getLast? = some ' ' then
        (Text.indent line).dropLast else Text.indent line, rest ++ lines.flatten, ?_,
        List.all_eq_true.1 List.all_takeWhile, fun hmem => hnot (List.mem_append_left _ hmem), ?_, ?_⟩
      · simpa using htext
      · intro c hc
        split at hc
        · exact (List.dropLast_sublist _).subset hc
        · exact hc
      · rw [cutLines, hlines, List.flatMap_cons, breakLine_of_breaks hline hrest, hcut]
        simp
    · left
      refine ⟨fun hfirst => h ?_, ?_⟩
      · obtain rfl | rfl := line_eq_firstLine hlines
        · exact hfirst
        · exact hfirst.append _
      · rw [cutLines, cutAhead, hlines, List.flatMap_cons, breakLine_of_not_breaks h]

/-- A text that starts with no end of a comment is cut as from within a line. -/
theorem cutLines_of_not_atMark {text : List Char} (h : ¬ AtMark text) :
    cutLines text = cutAhead text := by
  obtain ⟨-, hcut⟩ | ⟨u, w, v, rfl, hu, -⟩ := cutLines_cases text
  · exact hcut
  · refine absurd ⟨v, ?_⟩ h
    rw [Text.trimStart, List.dropWhile_append_of_pos hu]
    rfl

/-- Before the end of a comment stand blanks only. -/
theorem atMark_of_append {u v : List Char} (hu : ∀ c ∈ u, isPassedOver c = true)
    (h : AtMark (u ++ v)) : AtMark v := by
  induction u with
  | nil => exact h
  | cons c u ih =>
    obtain ⟨t, ht⟩ := h
    refine ih (fun d hd => hu d (List.mem_cons_of_mem _ hd)) ⟨t, ?_⟩
    unfold Text.trimStart at ht ⊢
    rw [List.cons_append, List.dropWhile_cons] at ht
    -- a character that is passed over is no star, so it is a blank like the others
    split at ht
    · exact ht
    · rw [List.cons.injEq] at ht
      have hc := hu c List.mem_cons_self
      rw [ht.1] at hc
      exact absurd hc (by decide)

/-- **Blanks stay as they are**, ends of lines too, where no end of a comment is behind them. -/
theorem cutAhead_blanks {u v : List Char} (hu : ∀ c ∈ u, isPassedOver c = true) (hv : ¬ AtMark v) :
    cutAhead (u ++ v) = u ++ cutAhead v := by
  induction u with
  | nil => rfl
  | cons c u ih =>
    have hrest : ∀ d ∈ u, isPassedOver d = true := fun d hd => hu d (List.mem_cons_of_mem _ hd)
    rw [List.cons_append, List.cons_append, ← ih hrest]
    by_cases hc : c = '\n'
    · rw [hc, cutAhead_newline, cutLines_of_not_atMark fun h => hv (atMark_of_append hrest h)]
    · exact cutAhead_cons hc

/-! ### What a comment says -/

/-- The end of a comment does not stand within what it says. -/
def Unclosed (body : List Char) : Prop := ¬ ['*', '/'] <:+: body

theorem Unclosed.tail {c : Char} {body : List Char} (h : Unclosed (c :: body)) : Unclosed body :=
  fun hin => h (List.infix_cons hin)

/-- What a comment says is read up to the end of the comment. -/
theorem commentBody?_of_unclosed {body : List Char} (h : Unclosed body) (after out : List Char) :
    Read.commentBody? (body ++ '*' :: '/' :: after) out = some (out.reverse ++ body) := by
  induction body generalizing out with
  | nil => simp [Read.commentBody?]
  | cons c body ih =>
    rw [List.cons_append, Read.commentBody?, ih h.tail]
    · simp
    · rintro cs rfl hcs
      -- had the end of the comment begun here, then it would stand in what is said
      refine h ?_
      cases body with
      | nil => exact absurd (List.cons.inj hcs).1 (by decide)
      | cons d body =>
        rw [List.cons_append, List.cons.injEq] at hcs
        rw [hcs.1]
        exact ⟨[], body, rfl⟩

/-- A comment that is read has an end. -/
theorem unclosed_of_commentBody? {cs out text : List Char} (h : Read.commentBody? cs out = some text) :
    ∃ body after, cs = body ++ '*' :: '/' :: after ∧ text = out.reverse ++ body ∧ Unclosed body := by
  fun_induction Read.commentBody? cs out with
  | case1 out => cases h
  | case2 after out =>
    refine ⟨[], after, rfl, ?_, by simp [Unclosed]⟩
    simpa using h.symm
  | case3 c cs out hend ih =>
    obtain ⟨body, after, rfl, rfl, hbody⟩ := ih h
    refine ⟨c :: body, after, rfl, by simp, ?_⟩
    -- the end of the comment is not here, where reading has gone on, nor further within
    rintro ⟨u, w, huw⟩
    cases u with
    | nil =>
      simp only [List.nil_append, List.cons_append, List.cons.injEq] at huw
      obtain ⟨rfl, rfl⟩ := huw
      exact hend _ rfl rfl
    | cons d u =>
      simp only [List.cons_append, List.cons.injEq] at huw
      exact hbody ⟨u, w, huw.2⟩

/-- Blanks of which the end of a comment follows are the last line of what it says. -/
private theorem eq_of_unclosed {body u after t : List Char} (hu : ∀ c ∈ u, Text.isBlank c = true)
    (hbody : Unclosed body) (h : body ++ '*' :: '/' :: after = u ++ '*' :: '/' :: t) :
    body = u ∧ after = t := by
  have hunclosed : Unclosed u := by
    intro hin
    exact absurd (hu '*' (hin.subset (by simp))) (by decide)
  have hread := commentBody?_of_unclosed hbody after []
  rw [h, commentBody?_of_unclosed hunclosed t []] at hread
  obtain rfl : u = body := by simpa using hread
  refine ⟨rfl, ?_⟩
  simpa using h

/-- **What follows a comment is cut only behind an end of a line in it**: the comment stays as it is,
and the blank behind it may become the end of a line and blanks of the comment. -/
theorem cutAhead_comment {body : List Char} (h : Unclosed body) (after : List Char) :
    cutAhead (body ++ '*' :: '/' :: after) = body ++ '*' :: '/' :: cutAhead after ∨
      ∃ t w, after = ' ' :: t ∧ '\n' ∈ body ∧ (∀ c ∈ w, c ∈ body ∧ Text.isBlank c = true) ∧
        cutAhead (body ++ '*' :: '/' :: after) = body ++ '*' :: '/' :: '\n' :: (w ++ cutAhead t) := by
  -- by induction on what the comment says: only an end of a line in it may bring a cut
  induction body with
  | nil =>
    left
    rw [List.nil_append, cutAhead_cons (by decide), cutAhead_cons (by decide)]
    rfl
  | cons c body ih =>
    have ih := ih h.tail
    by_cases hc : c = '\n'
    · -- here a line starts: its end of a comment, if it has one, is the end of this comment
      subst hc
      rw [List.cons_append, cutAhead_newline]
      obtain ⟨-, hcut⟩ | ⟨u, w, v, htext, hu, -, hw, hcut⟩ := cutLines_cases (body ++ '*' :: '/' :: after)
      · rw [hcut]
        obtain hsame | ⟨t, w, rfl, hn, hw, hcut⟩ := ih
        · left
          rw [hsame, List.cons_append]
        · right
          refine ⟨t, w, rfl, List.mem_cons_self, fun c hc => ?_, by rw [hcut, List.cons_append]⟩
          exact ⟨List.mem_cons_of_mem _ (hw c hc).1, (hw c hc).2⟩
      · right
        obtain ⟨rfl, rfl⟩ := eq_of_unclosed hu h.tail htext
        refine ⟨v, w, rfl, List.mem_cons_self, fun c hc => ?_, by rw [hcut, List.cons_append]⟩
        exact ⟨List.mem_cons_of_mem _ (hw c hc), hu c (hw c hc)⟩
    · rw [List.cons_append, cutAhead_cons hc]
      obtain hsame | ⟨t, w, rfl, hn, hw, hcut⟩ := ih
      · left
        rw [hsame, List.cons_append]
      · right
        refine ⟨t, w, rfl, List.mem_cons_of_mem _ hn, fun c hc => ?_, by rw [hcut, List.cons_append]⟩
        exact ⟨List.mem_cons_of_mem _ (hw c hc).1, (hw c hc).2⟩

/-- A comment that has no end is not cut, nor is anything behind it. -/
theorem cutAhead_of_unclosed {text : List Char} (h : Unclosed text) : cutAhead text = text := by
  induction text with
  | nil => rfl
  | cons c text ih =>
    by_cases hc : c = '\n'
    · subst hc
      rw [cutAhead_newline]
      obtain ⟨-, hcut⟩ | ⟨u, w, v, rfl, -⟩ := cutLines_cases text
      · rw [hcut, ih h.tail]
      · -- a cut needs the end of a comment
        exact absurd ⟨u, ' ' :: v, by simp⟩ h.tail
    · rw [cutAhead_cons hc, ih h.tail]

/-- A comment of which no end is found has none. -/
theorem unclosed_of_commentBody?_eq_none {cs out : List Char} (h : Read.commentBody? cs out = none) :
    Unclosed cs := by
  rintro ⟨u, w, rfl⟩
  -- the reading goes on over what is before the end of the comment, and would stop there
  induction u generalizing out with
  | nil => simp [Read.commentBody?] at h
  | cons c u ih =>
    rw [List.cons_append, List.cons_append, Read.commentBody?.eq_def] at h
    split at h
    · next hcs => cases hcs
    · cases h
    · next hcs =>
      obtain ⟨rfl, rfl⟩ := List.cons.inj hcs
      exact ih h

theorem head?_cutAhead (cs : List Char) : (cutAhead cs).head? = cs.head? := by
  cases cs with
  | nil => rfl
  | cons c cs =>
    by_cases hc : c = '\n'
    · rw [hc, cutAhead_newline]
      rfl
    · rw [cutAhead_cons hc]
      rfl

/-- A text whose lines are cut is no shorter. -/
theorem length_le_cutAhead (text : List Char) : text.length ≤ (cutAhead text).length := by
  -- by induction on the length, for a cut skips all that stands before it in its line
  obtain ⟨n, hn⟩ : ∃ n, text.length = n := ⟨_, rfl⟩
  induction n using Nat.strongRecOn generalizing text with
  | ind n ih =>
    cases text with
    | nil => exact Nat.le_refl _
    | cons c text =>
      rw [List.length_cons] at hn
      by_cases hc : c = '\n'
      · subst hc
        rw [cutAhead_newline, List.length_cons, List.length_cons]
        obtain ⟨-, hcut⟩ | ⟨u, w, v, rfl, -, -, -, hcut⟩ := cutLines_cases text
        · have hle := ih _ (by omega) text rfl
          rw [hcut]
          omega
        · rw [List.length_append, List.length_cons, List.length_cons, List.length_cons] at hn
          have hle := ih _ (by omega) v rfl
          rw [hcut]
          simp only [List.length_append, List.length_cons]
          omega
      · have hle := ih _ (by omega) text rfl
        rw [cutAhead_cons hc, List.length_cons, List.length_cons]
        omega

/-- What is blank in a line that is cut is passed over, but for one character. -/
theorem isPassedOver_of_isBlank {c : Char} (h : Text.isBlank c = true) (hne : c ≠ '\u0085') :
    isPassedOver c = true := by
  obtain ⟨p, hp, hlow, hhigh⟩ := Text.Ranges.has_iff.1 h
  have hall : ∀ p ∈ Text.blankRanges, ∀ n ∈ List.range' p.1 (p.2 + 1 - p.1),
      n ≠ 0x85 → isPassedOver (Char.ofNat n) = true := by decide
  have hc := hall p hp c.toNat (by rw [List.mem_range'_1]; omega) ?_
  · rwa [Char.ofNat_toNat] at hc
  · intro heq
    refine hne ?_
    rw [← Char.ofNat_toNat c, heq]

/-- **What follows a comment** is the same in the text that is cut, but for the blanks behind the
comment; and a line ends in or behind the comment in both texts. -/
theorem cutAhead_comment_blanks {body u v : List Char} (hbody : Unclosed body)
    (hblank : '\u0085' ∉ body) (hu : ∀ c ∈ u, isPassedOver c = true)
    (hv : ∀ c ∈ v.head?, isPassedOver c = false) (hmark : ¬ AtMark v) :
    ∃ w, cutAhead (body ++ '*' :: '/' :: (u ++ v)) = body ++ '*' :: '/' :: (w ++ cutAhead v) ∧
      (∀ c ∈ w, isPassedOver c = true) ∧
      (body.any isLineEnd || w.any isLineEnd) = (body.any isLineEnd || u.any isLineEnd) := by
  obtain hcut | ⟨t, w, hafter, hn, hw, hcut⟩ := cutAhead_comment hbody (u ++ v)
  · exact ⟨u, by rw [hcut, cutAhead_blanks hu hmark], hu, rfl⟩
  · -- the blank behind the comment becomes an end of a line and some of the blanks in the comment
    obtain ⟨u, rfl, rfl⟩ : ∃ u', u = ' ' :: u' ∧ t = u' ++ v := by
      cases u with
      | nil => exact absurd (hv ' ' (by rw [← List.nil_append v, hafter]; rfl)) (by decide)
      | cons d u =>
        obtain ⟨rfl, ht⟩ := List.cons.inj hafter
        exact ⟨u, rfl, ht.symm⟩
    have hu' : ∀ c ∈ u, isPassedOver c = true := fun c hc => hu c (List.mem_cons_of_mem _ hc)
    have hends : body.any isLineEnd = true := List.any_eq_true.2 ⟨'\n', hn, by decide⟩
    refine ⟨'\n' :: (w ++ u), ?_, fun c hc => ?_, by rw [hends, Bool.true_or, Bool.true_or]⟩
    · rw [hcut, cutAhead_blanks hu' hmark]
      simp
    · simp only [List.mem_cons, List.mem_append] at hc
      obtain rfl | hc | hc := hc
      · decide
      · exact isPassedOver_of_isBlank (hw c hc).2 fun heq => hblank (heq ▸ (hw c hc).1)
      · exact hu' c hc

/-! ### From the page to what is printed -/

/-- **A place is settled** if in its line something stands before it that neither is blank nor belongs
to the end of a comment. -/
def Settled (before : List Char) : Prop :=
  ∃ u c v, before = u ++ c :: v ∧ '\n' ∉ v ∧ Text.isBlank c = false ∧ c ≠ '*' ∧ c ≠ '/'

/-- A character that neither is blank nor belongs to the end of a comment is behind that end, if blanks
alone are before it. -/
private theorem exists_of_behind_mark {c : Char} {u b more t : List Char}
    (hblank : Text.isBlank c = false) (hstar : c ≠ '*') (hslash : c ≠ '/')
    (hb : ∀ d ∈ b, Text.isBlank d = true) (h : u ++ c :: more = b ++ '*' :: '/' :: ' ' :: t) :
    ∃ x, u = b ++ ['*', '/', ' '] ++ x ∧ t = x ++ c :: more := by
  have htext : u ++ c :: more = b ++ ['*', '/', ' '] ++ t := by simpa using h
  obtain ⟨y, hy, hcy⟩ | ⟨y, hy, hty⟩ := List.append_eq_append_iff.1 htext
  · cases y with
    | nil => exact ⟨[], by simpa using hy.symm, by simpa using hcy.symm⟩
    | cons d y =>
      -- else the character would be one of the blanks, or one of the mark
      obtain ⟨rfl, -⟩ := List.cons.inj hcy
      have hmem : c ∈ b ++ ['*', '/', ' '] := by
        rw [hy]
        simp
      obtain hmem | hmem := List.mem_append.1 hmem
      · exact absurd (hb c hmem) (by simp [hblank])
      · simp only [List.mem_cons, List.not_mem_nil, or_false] at hmem
        obtain rfl | rfl | rfl := hmem
        · exact absurd rfl hstar
        · exact absurd rfl hslash
        · exact absurd hblank (by decide)
  · exact ⟨y, hy, hty⟩

/-- What is printed of a text goes on, behind a settled place, with the text ahead cut. -/
private theorem exists_of_settled {c : Char} {v ahead : List Char} (hv : '\n' ∉ v)
    (hblank : Text.isBlank c = false) (hstar : c ≠ '*') (hslash : c ≠ '/') (u : List Char) :
    (∃ w, cutAhead (u ++ c :: (v ++ ahead)) = w ++ cutAhead ahead) ∧
      ∃ w, cutLines (u ++ c :: (v ++ ahead)) = w ++ cutAhead ahead := by
  -- both at once: the first line goes on as from within a line, and the others start at theirs
  obtain ⟨n, hn⟩ : ∃ n, u.length = n := ⟨_, rfl⟩
  induction n using Nat.strongRecOn generalizing u with
  | ind n ih =>
    have hc : c ≠ '\n' := by
      rintro rfl
      exact absurd hblank (by decide)
    have hahead : ∃ w, cutAhead (u ++ c :: (v ++ ahead)) = w ++ cutAhead ahead := by
      cases u with
      | nil =>
        refine ⟨c :: v, cutAhead_append_of_not_mem (u := c :: v) fun hmem => ?_⟩
        exact (List.mem_cons.1 hmem).elim (Ne.symm hc) hv
      | cons d u =>
        rw [List.length_cons] at hn
        obtain ⟨⟨w, hw⟩, w', hw'⟩ := ih u.length (by omega) u rfl
        by_cases hd : d = '\n'
        · exact ⟨'\n' :: w', by rw [hd, List.cons_append, cutAhead_newline, hw', List.cons_append]⟩
        · exact ⟨d :: w, by rw [List.cons_append, cutAhead_cons hd, hw, List.cons_append]⟩
    refine ⟨hahead, ?_⟩
    obtain ⟨-, hcut⟩ | ⟨b, w, t, htext, hb, -, -, hcut⟩ := cutLines_cases (u ++ c :: (v ++ ahead))
    · rw [hcut]
      exact hahead
    · obtain ⟨x, rfl, rfl⟩ : ∃ x, u = b ++ ['*', '/', ' '] ++ x ∧ t = x ++ c :: (v ++ ahead) :=
        exists_of_behind_mark hblank hstar hslash hb htext
      have hlength : x.length < n := by
        rw [← hn]
        simp
        omega
      obtain ⟨⟨w', hw'⟩, -⟩ := ih x.length hlength x rfl
      refine ⟨b ++ '*' :: '/' :: '\n' :: (w ++ w'), ?_⟩
      rw [hcut, hw']
      simp

/-- **Behind a settled place** the printed text goes on with the text ahead cut. -/
theorem exists_cutAhead_of_settled {before ahead : List Char} (h : Settled before) :
    ∃ w, cutLines (before ++ ahead) = w ++ cutAhead ahead := by
  obtain ⟨u, c, v, rfl, hv, hblank, hstar, hslash⟩ := h
  rw [List.append_assoc, List.cons_append]
  exact (exists_of_settled hv hblank hstar hslash u).2

/-! ### Texts in which no line is cut -/

/-- A text that two texts start with ends before they differ. -/
private theorem length_le_of_prefix {raw u v w : List Char} {c d : Char} (h : raw <+: u ++ c :: v)
    (h' : raw <+: u ++ d :: w) (hne : c ≠ d) : raw.length ≤ u.length := by
  induction u generalizing raw with
  | nil =>
    cases raw with
    | nil => exact Nat.le_refl _
    | cons e raw =>
      obtain ⟨rfl, -⟩ := List.cons_prefix_cons.1 h
      exact absurd (List.cons_prefix_cons.1 h').1 hne
  | cons e u ih =>
    cases raw with
    | nil => exact Nat.zero_le _
    | cons f raw => exact Nat.succ_le_succ (ih (List.cons_prefix_cons.1 h).2 (List.cons_prefix_cons.1 h').2)

/-- The first line of a longer text goes on. -/
private theorem firstLine_append (u v : List Char) : ∃ w, firstLine (u ++ v) = firstLine u ++ w := by
  unfold firstLine
  rw [List.takeWhile_append]
  split
  · next h =>
    refine ⟨v.takeWhile (· ≠ '\n'), ?_⟩
    rw [(List.takeWhile_prefix _).eq_of_length h]
  · exact ⟨[], (List.append_nil _).symm⟩

/-- The blanks before the end of a comment are those that the text starts with. -/
private theorem indent_mark {u v : List Char} (hu : ∀ c ∈ u, Text.isBlank c = true) :
    Text.indent (u ++ '*' :: v) = u := by
  rw [Text.indent, List.takeWhile_append_of_pos hu, List.takeWhile_cons_of_neg (by decide),
    List.append_nil]

/-- A text that another one starts with, both as it is and with its lines cut, does not start with a line
that is cut. -/
private theorem not_breaks_of_prefix_cutLines {v text : List Char} (h : v <+: text)
    (h' : v <+: cutLines text) : ¬ Breaks (firstLine v) := by
  intro hbreaks
  obtain ⟨hfirst, -⟩ | ⟨b, w, x, rfl, hb, -, -, hcut⟩ := cutLines_cases text
  · obtain ⟨y, rfl⟩ := h
    obtain ⟨z, hz⟩ := firstLine_append v y
    exact hfirst (hz ▸ hbreaks.append z)
  · -- the text ends before the blank behind the comment, but it has something behind that
    obtain ⟨c, y, hline, hc, d, hd, -⟩ := breaks_iff.1 hbreaks
    have hlength : v.length ≤ b.length + 2 := by
      have hle := length_le_of_prefix (u := b ++ ['*', '/']) (c := ' ') (d := '\n')
        (by simpa using h) (by simpa [hcut] using h') (by decide)
      simpa using hle
    have hlonger : c.length + 4 ≤ v.length := by
      have hle : (firstLine v).length ≤ v.length := (List.takeWhile_sublist _).length_le
      have hpos : 0 < y.length := List.length_pos_of_mem hd
      rw [hline] at hle
      simp only [List.length_append, List.length_cons] at hle
      omega
    -- the blanks before the mark are the same in both texts
    have hsame : c = b := by
      obtain ⟨z, hz⟩ : c ++ '*' :: '/' :: ' ' :: y <+: b ++ '*' :: '/' :: ' ' :: x :=
        hline ▸ (List.takeWhile_prefix _).trans h
      rw [← indent_mark hc (v := '/' :: ' ' :: y ++ z), ← indent_mark hb (v := '/' :: ' ' :: x), ← hz]
      simp
    rw [hsame] at hlonger
    omega

/-- A text with the end of a line in it that another one starts with, both as it is and with its lines
cut, goes on as from within a line: a cut would come before the end of that line. -/
private theorem prefix_cutAhead_of_prefix_cutLines {u v text : List Char} (h : u ++ '\n' :: v <+: text)
    (h' : u ++ '\n' :: v <+: cutLines text) : u ++ '\n' :: v <+: cutAhead text := by
  obtain ⟨-, hcut⟩ | ⟨b, w, x, rfl, -, hb, -, hcut⟩ := cutLines_cases text
  · rwa [hcut] at h'
  · have hlength := length_le_of_prefix (u := b ++ ['*', '/']) (c := ' ') (d := '\n')
      (by simpa using h) (by simpa [hcut] using h') (by decide)
    have hprefix : u ++ '\n' :: v <+: b ++ ['*', '/'] :=
      List.prefix_of_prefix_length_le h ⟨' ' :: x, by simp⟩ hlength
    have hmem := hprefix.subset (List.mem_append_right u List.mem_cons_self)
    simp [hb] at hmem

/-- **A text that starts both with some text and with its lines cut** has no line behind its first
one that is cut. -/
theorem not_breaks_of_prefix {u v text : List Char} (h : u ++ '\n' :: v <+: text)
    (h' : u ++ '\n' :: v <+: cutAhead text) : ¬ Breaks (firstLine v) := by
  -- by induction on what is before the end of the line, character by character in both texts
  induction u generalizing text with
  | nil =>
    obtain ⟨t, rfl⟩ : ∃ t, text = '\n' :: t := by
      cases text with
      | nil => exact absurd h (by simp)
      | cons c t => exact ⟨t, by rw [(List.cons_prefix_cons.1 h).1]⟩
    rw [cutAhead_newline] at h'
    exact not_breaks_of_prefix_cutLines (List.cons_prefix_cons.1 h).2 (List.cons_prefix_cons.1 h').2
  | cons d u ih =>
    obtain ⟨t, rfl, ht⟩ : ∃ t, text = d :: t ∧ u ++ '\n' :: v <+: t := by
      cases text with
      | nil => exact absurd h (by simp)
      | cons c t =>
        obtain ⟨rfl, ht⟩ := List.cons_prefix_cons.1 h
        exact ⟨t, rfl, ht⟩
    by_cases hd : d = '\n'
    · subst hd
      rw [cutAhead_newline] at h'
      have ht' : u ++ '\n' :: v <+: cutLines t := (List.cons_prefix_cons.1 h').2
      exact ih ht (prefix_cutAhead_of_prefix_cutLines ht ht')
    · rw [cutAhead_cons hd] at h'
      exact ih ht (List.cons_prefix_cons.1 h').2

end EnvSchema.Script
