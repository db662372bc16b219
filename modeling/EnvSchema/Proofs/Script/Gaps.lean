import EnvSchema.Proofs.Script.Cutting

/-!
# What stands between tokens, cut

A line that starts with the end of a comment is cut behind it, and there a new line starts. The
comment has an end of a line in it, for otherwise its end would not start a line; so between the
tokens around it a line ends in any case. This is why cutting a line behind a comment is not seen
when the text is read.

* `Reader.Cut` — a state of reading the text with its lines cut, beside one of reading the text;
* `Passes` — a step that passes over a gap of the text, in both texts;
* `Read.skipBlanks_cut` — the blanks and comments before a token are passed over in both texts, and
  the states behind them differ in places only.

There is one blank that does not separate tokens. It may stand before the end of a comment, and so it
may come to stand before a token: the gap must not have it.
-/

namespace EnvSchema.Script

/-! ### Two states of reading -/

/-- **A state of reading a text whose lines are cut**, beside the one of reading the text itself: the
text ahead is cut, and places may be others. -/
def Reader.Cut (s s' : Reader) : Prop :=
  ∃ pos faults, s' = { s with rest := cutAhead s.rest, pos := pos, faults := faults } ∧
    faults.map (·.fault) = s.faults.map (·.fault)

namespace Reader

variable {r r' : Reader} {u v w : List Char}

theorem Cut.rest (h : r.Cut r') : r'.rest = cutAhead r.rest := by
  obtain ⟨pos, faults, rfl, -⟩ := h
  rfl

theorem Cut.lineBreak (h : r.Cut r') : r'.lineBreak = r.lineBreak := by
  obtain ⟨pos, faults, rfl, -⟩ := h
  rfl

theorem Cut.lastClass (h : r.Cut r') : r'.lastClass = r.lastClass := by
  obtain ⟨pos, faults, rfl, -⟩ := h
  rfl

/-- The state behind what stands between tokens; `ends` says whether a line has ended. -/
def behind (r : Reader) (taken ahead : List Char) (ends : Bool) : Reader :=
  { r.past taken ahead with lineBreak := ends }

theorem Cut.behind {ends : Bool} (h : r.Cut r') :
    (r.behind u v ends).Cut (r'.behind w (cutAhead v) ends) := by
  obtain ⟨pos, faults, rfl, hfaults⟩ := h
  exact ⟨pos + w.length, faults, rfl, hfaults⟩

/-- The state in which a comment is kept. -/
def keeping (r : Reader) (forNext : Bool) (c : Comment) : Reader :=
  if forNext then { r with pending := r.pending ++ [c] }
  else { r with placed := (false, r.lastEnd, c) :: r.placed }

theorem keeping_rest (forNext : Bool) (c : Comment) : (r.keeping forNext c).rest = r.rest := by
  cases forNext <;> rfl

theorem Cut.keeping {forNext : Bool} {c : Comment} (h : r.Cut r') :
    (r.keeping forNext c).Cut (r'.keeping forNext c) := by
  obtain ⟨pos, faults, rfl, hfaults⟩ := h
  cases forNext with
  | true => exact ⟨pos, faults, rfl, hfaults⟩
  | false => exact ⟨pos, faults, rfl, hfaults⟩

/-- The state in which a fault is recorded where the reader is. -/
def faulty (r : Reader) (fault : Fault) : Reader :=
  if r.context.ignoreFaults then r else { r with faults := ⟨.point r.pos, fault⟩ :: r.faults }

theorem faulty_rest (fault : Fault) : (r.faulty fault).rest = r.rest := by
  unfold faulty
  split <;> rfl

theorem Cut.faulty {fault : Fault} (h : r.Cut r') : (r.faulty fault).Cut (r'.faulty fault) := by
  obtain ⟨pos, faults, rfl, hfaults⟩ := h
  unfold Reader.faulty
  cases r.context.ignoreFaults with
  | true => exact ⟨pos, faults, rfl, hfaults⟩
  | false => exact ⟨pos, ⟨.point pos, fault⟩ :: faults, rfl, by rw [List.map_cons, hfaults]; rfl⟩

end Reader

namespace Read

variable {r r' s : Reader} {u v : List Char}

/-- Blanks are passed over. -/
private theorem skipPlain_past (h : r.rest = u ++ v) (hu : ∀ c ∈ u, isPassedOver c = true)
    (hv : ∀ c ∈ v.head?, isPassedOver c = false) :
    skipPlain r = .ok () (r.behind u v (r.lineBreak || u.any isLineEnd)) := by
  refine Answers.eq (.bind_eq (takeWhile_past h hu hv) ?_)
  by_cases hends : u.any isLineEnd = true
  · rw [if_pos hends, hends, Bool.or_true]
    exact ⟨_, _, rfl, rfl, rfl⟩
  · rw [Bool.not_eq_true] at hends
    rw [hends, if_neg (by decide), Bool.or_false]
    exact ⟨_, _, rfl, rfl, rfl⟩

/-- A comment up to the end of the line is passed over and kept. -/
private theorem skipLineComment_past (h : r.rest = '/' :: '/' :: (u ++ v))
    (hu : ∀ c ∈ u, isLineEnd c = false) (hv : ∀ c ∈ v.head?, isLineEnd c = true) :
    skipLineComment 2 r = .ok () ((r.behind ('/' :: '/' :: u) v r.lineBreak).keeping
      (r.lineBreak || !(r.lastClass.map TokenClass.canTrailLine).getD true)
      ⟨.line, String.ofList u⟩) := by
  have hskip : skip 2 r = .ok () (r.past ['/', '/'] (u ++ v)) := skip_past (u := ['/', '/']) h
  refine (bind_of_ok hskip).trans ?_
  refine (bind_of_ok rfl).trans ((bind_of_ok (takeWhile_past rfl ?_ ?_)).trans ?_)
  · simpa using hu
  · simpa using hv
  · rw [past_past]
    rfl

/-- Some more characters are taken. -/
private theorem skip_behind {n : Nat} {w : List Char} (hn : n = w.length) (ends : Bool) :
    skip n (r.behind u (w ++ v) ends) = .ok () (r.behind (u ++ w) v ends) := by
  rw [hn, skip_past (r := r.behind u (w ++ v) ends) rfl]
  simp [Reader.behind, Reader.past, Nat.add_assoc]

/-- Blanks behind a comment are passed over. -/
private theorem skipPlain_behind {w : List Char} {ends : Bool} (hu : ∀ c ∈ u, isPassedOver c = true)
    (hv : ∀ c ∈ v.head?, isPassedOver c = false) :
    skipPlain (r.behind w (u ++ v) ends) = .ok () (r.behind (w ++ u) v (ends || u.any isLineEnd)) := by
  rw [skipPlain_past (r := r.behind w (u ++ v) ends) rfl hu hv]
  simp [Reader.behind, Reader.past, Nat.add_assoc]

/-- A comment in brackets is passed over, with the blanks behind it, and kept. -/
private theorem skipBlockComment_past {body : List Char} (hbody : Unclosed body)
    (h : r.rest = '/' :: '*' :: (body ++ '*' :: '/' :: (u ++ v)))
    (hu : ∀ c ∈ u, isPassedOver c = true) (hv : ∀ c ∈ v.head?, isPassedOver c = false) :
    skipBlockComment r = .ok () ((r.behind (['/', '*'] ++ (body ++ ['*', '/']) ++ u) v
      (r.lineBreak || body.any isLineEnd || u.any isLineEnd)).keeping
      ((r.lineBreak || !(r.lastClass.map TokenClass.canTrail).getD false) && v.head? != some ';')
      ⟨.block, String.ofList body⟩) := by
  have hpast : (r.behind ['/', '*'] (body ++ ['*', '/'] ++ (u ++ v)) r.lineBreak).rest =
      body ++ ['*', '/'] ++ (u ++ v) := rfl
  have htext : r.rest = ['/', '*'] ++ (body ++ ['*', '/'] ++ (u ++ v)) := by
    rw [h]
    simp
  have hskip : skip 2 r = .ok () (r.behind ['/', '*'] (body ++ ['*', '/'] ++ (u ++ v)) r.lineBreak) :=
    skip_past (u := ['/', '*']) htext
  have hread : commentBody? (body ++ ['*', '/'] ++ (u ++ v)) [] = some body := by
    simpa using commentBody?_of_unclosed hbody (u ++ v) []
  have hback := skip_behind (r := r) (u := ['/', '*']) (v := u ++ v)
    (show body.length + 2 = (body ++ ['*', '/']).length by simp)
  refine Answers.eq (.bind_eq hskip (.bind_eq rfl ?_))
  dsimp only
  rw [hpast, hread]
  dsimp only
  -- a line that ends in the comment is remembered before the blanks behind it are passed over
  by_cases hends : body.any isLineEnd = true
  · rw [if_pos hends, hends, Bool.or_true]
    refine .bind_eq rfl (.bind_eq (hback true) (.bind_eq (skipPlain_behind hu hv) ?_))
    exact ⟨_, _, rfl, rfl, rfl⟩
  · rw [Bool.not_eq_true] at hends
    rw [hends, if_neg (by decide), Bool.or_false]
    refine .bind_eq (hback r.lineBreak) (.bind_eq (skipPlain_behind hu hv) ?_)
    exact ⟨_, _, rfl, rfl, rfl⟩

/-- A comment without an end takes the text up to the end, which is a fault. -/
private theorem skipBlockComment_unterminated (hu : Unclosed u) (h : r.rest = '/' :: '*' :: u) :
    skipBlockComment r = .ok () ((r.behind (['/', '*'] ++ u) [] (r.lineBreak || u.any isLineEnd)).faulty
      .unterminatedBlockComment) := by
  have hpast : (r.behind ['/', '*'] (u ++ []) r.lineBreak).rest = u := List.append_nil u
  have htext : r.rest = ['/', '*'] ++ (u ++ []) := by
    rw [h]
    simp
  have hskip : skip 2 r = .ok () (r.behind ['/', '*'] (u ++ []) r.lineBreak) :=
    skip_past (u := ['/', '*']) htext
  -- what has an end would not be unclosed
  have hread : commentBody? u [] = none := by
    cases hbody : commentBody? u [] with
    | none => rfl
    | some body =>
      obtain ⟨body, after, heq, -⟩ := unclosed_of_commentBody? hbody
      exact absurd ⟨body, after, by rw [heq]; simp⟩ hu
  have hback := skip_behind (r := r) (u := ['/', '*']) (v := []) (w := u) rfl
  refine Answers.eq (.bind_eq hskip (.bind_eq rfl ?_))
  dsimp only
  rw [hpast, hread]
  dsimp only
  by_cases hends : u.any isLineEnd = true
  · rw [if_pos hends, hends, Bool.or_true]
    exact .bind_eq rfl (.bind_eq (hback true) ⟨_, _, rfl, rfl, rfl⟩)
  · rw [Bool.not_eq_true] at hends
    rw [hends, if_neg (by decide), Bool.or_false]
    exact .bind_eq (hback r.lineBreak) ⟨_, _, rfl, rfl, rfl⟩

/-! ### A gap in both texts -/

/-- **A step passes over a gap** of a text, and so does a step in the text whose lines are cut. -/
structure Passes (step step' : Read Unit) (r s : Reader) (gap : List Char) : Prop where
  run : step r = .ok () s
  text : r.rest = gap ++ s.rest
  cut : ∀ r', r.Cut r' → '\u0085' ∉ gap → ¬ AtMark s.rest → ∃ s', step' r' = .ok () s' ∧ s.Cut s'

/-- Steps that pass over two gaps, one after the other. -/
private theorem Passes.bind {step step' next next' : Read Unit} {t : Reader}
    (h : Passes step step' r s u) (hnext : Passes next next' s t v)
    (hmark : AtMark s.rest → AtMark t.rest) :
    Passes (step >>= fun _ => next) (step' >>= fun _ => next') r t (u ++ v) where
  run := (bind_of_ok h.run).trans hnext.run
  text := by rw [h.text, hnext.text, List.append_assoc]
  cut := by
    intro r' hr' hblank ht
    obtain ⟨s', hs', hs⟩ := h.cut r' hr' (fun hmem => hblank (List.mem_append_left _ hmem))
      fun hs => ht (hmark hs)
    obtain ⟨t', ht', ht⟩ := hnext.cut s' hs (fun hmem => hblank (List.mem_append_right _ hmem)) ht
    exact ⟨t', (bind_of_ok hs').trans ht', ht⟩

/-- A text in two pieces, of which the first one has some kind of characters and the second one
starts with none of them. -/
private theorem exists_span (p : Char → Bool) (text : List Char) :
    ∃ u v, text = u ++ v ∧ (∀ c ∈ u, p c = true) ∧ ∀ c ∈ v.head?, p c = false := by
  refine ⟨text.takeWhile p, text.dropWhile p, List.takeWhile_append_dropWhile.symm,
    List.all_eq_true.1 List.all_takeWhile, fun c hc => ?_⟩
  have hhead := List.head?_dropWhile_not p text
  rw [Option.mem_def.1 hc] at hhead
  simpa using hhead

/-- **A comment up to the end of the line** is passed over in both texts. -/
private theorem skipLineComment_passes (h : r.rest = '/' :: '/' :: u) :
    ∃ s w, Passes (skipLineComment 2) (skipLineComment 2) r s ('/' :: '/' :: w) := by
  obtain ⟨w, v, rfl, hw, hv⟩ := exists_span (!isLineEnd ·) u
  have hw : ∀ c ∈ w, isLineEnd c = false := fun c hc => by simpa using hw c hc
  have hv : ∀ c ∈ v.head?, isLineEnd c = true := fun c hc => by simpa using hv c hc
  have hnot : '\n' ∉ '/' :: '/' :: w := by
    simp only [List.mem_cons, not_or]
    refine ⟨by decide, by decide, fun hmem => ?_⟩
    exact absurd (hw '\n' hmem) (by decide)
  refine ⟨_, w, skipLineComment_past h hw hv, by rw [Reader.keeping_rest, h]; rfl, fun r' hr' _ _ => ?_⟩
  -- the comment stays within its line, so nothing of it is cut
  have hcut : r'.rest = '/' :: '/' :: (w ++ cutAhead v) := by
    rw [hr'.rest, h]
    exact cutAhead_append_of_not_mem hnot
  refine ⟨_, skipLineComment_past hcut hw (by rwa [head?_cutAhead]), ?_⟩
  rw [hr'.lineBreak, hr'.lastClass]
  exact hr'.behind.keeping

/-- **A comment in brackets** is passed over in both texts, with the blanks behind it. -/
private theorem skipBlockComment_passes (h : r.rest = '/' :: '*' :: u) :
    ∃ s w, Passes skipBlockComment skipBlockComment r s ('/' :: '*' :: w) := by
  cases hread : commentBody? u [] with
  | none =>
    have hopen := unclosed_of_commentBody?_eq_none hread
    refine ⟨_, u, skipBlockComment_unterminated hopen h, ?_, fun r' hr' _ _ => ?_⟩
    · rw [Reader.faulty_rest, h]
      exact (List.append_nil _).symm
    · have hcut : r'.rest = '/' :: '*' :: u := by
        rw [hr'.rest, h, cutAhead_cons (by decide), cutAhead_cons (by decide),
          cutAhead_of_unclosed hopen]
      refine ⟨_, skipBlockComment_unterminated hopen hcut, ?_⟩
      rw [hr'.lineBreak]
      exact hr'.behind.faulty
  | some body =>
    obtain ⟨body, after, rfl, rfl, hbody⟩ := unclosed_of_commentBody? hread
    obtain ⟨u, v, rfl, hu, hv⟩ := exists_span isPassedOver after
    refine ⟨_, body ++ '*' :: '/' :: u, skipBlockComment_past hbody h hu hv, ?_,
      fun r' hr' hblank hmark => ?_⟩
    · rw [Reader.keeping_rest, h]
      simp [Reader.behind, Reader.past]
    · rw [Reader.keeping_rest] at hmark
      -- only the blanks behind the comment may be others, and whether a line has ended is the same
      have hbody' : '\u0085' ∉ body := fun hmem => hblank (by simp [hmem])
      obtain ⟨w, hcut, hw, hends⟩ := cutAhead_comment_blanks hbody hbody' hu hv hmark
      have hrest : r'.rest = '/' :: '*' :: (body ++ '*' :: '/' :: (w ++ cutAhead v)) := by
        rw [hr'.rest, h, cutAhead_cons (by decide), cutAhead_cons (by decide), ← hcut]
      refine ⟨_, skipBlockComment_past hbody hrest hw (by rwa [head?_cutAhead]), ?_⟩
      rw [hr'.lineBreak, hr'.lastClass, head?_cutAhead, Bool.or_assoc r.lineBreak _ (w.any _), hends,
        ← Bool.or_assoc]
      exact hr'.behind.keeping

/-- What is passed over behind blanks: a comment of one of two kinds and what follows it, or
nothing. -/
private def behindBlanks (n : Nat) (v : List Char) : Read Unit :=
  if ['/', '/'].isPrefixOf v then skipLineComment 2 >>= fun _ => skipBlanksUpTo n
  else if ['/', '*'].isPrefixOf v then skipBlockComment >>= fun _ => skipBlanksUpTo n
  else pure ()

private theorem skipBlanksUpTo_succ {n : Nat} (hu : ∀ c ∈ u, isPassedOver c = true)
    (hv : ∀ c ∈ v.head?, isPassedOver c = false) (h : r.rest = u ++ v) :
    skipBlanksUpTo (n + 1) r =
      behindBlanks n v (r.behind u v (r.lineBreak || u.any isLineEnd)) := by
  unfold behindBlanks
  rw [skipBlanksUpTo, bind_of_ok (skipPlain_past h hu hv), bind_of_ok (ahead_apply "//")]
  by_cases hline : ['/', '/'].isPrefixOf v = true
  · rw [if_pos hline]
    exact congrFun (if_pos hline) _
  · rw [if_neg hline]
    refine (congrFun (if_neg hline) _).trans (bind_of_ok (ahead_apply "/*"))

/-- A slash is no end of a comment. -/
private theorem not_atMark_slash {cs : List Char} : ¬ AtMark ('/' :: cs) := by
  rintro ⟨t, ht⟩
  have htrim : Text.trimStart ('/' :: cs) = '/' :: cs :=
    List.dropWhile_cons_of_neg (by decide)
  rw [htrim] at ht
  exact absurd (List.cons.inj ht).1 (by decide)

/-- Whether a comment is ahead is the same in the text that is cut. -/
private theorem isPrefixOf_cutAhead {d : Char} (hd : d ≠ '\n') (v : List Char) :
    ['/', d].isPrefixOf (cutAhead v) = ['/', d].isPrefixOf v := by
  cases v with
  | nil => rfl
  | cons c v =>
    by_cases hc : c = '\n'
    · subst hc
      rw [cutAhead_newline]
      rfl
    · -- the first character is the same in both texts, and so is the second one unless a line ends there
      rw [cutAhead_cons hc, List.isPrefixOf_cons_cons, List.isPrefixOf_cons_cons]
      congr 1
      cases v with
      | nil => rfl
      | cons e v =>
        by_cases he : e = '\n'
        · subst he
          rw [cutAhead_newline, List.isPrefixOf_cons_cons, List.isPrefixOf_cons_cons,
            beq_eq_false_iff_ne.2 hd, Bool.false_and, Bool.false_and]
        · rw [cutAhead_cons he, List.isPrefixOf_cons_cons, List.isPrefixOf_cons_cons]
          rfl

/-- It is the same in both texts. -/
private theorem behindBlanks_cutAhead (n : Nat) (v : List Char) :
    behindBlanks n (cutAhead v) = behindBlanks n v := by
  unfold behindBlanks
  rw [isPrefixOf_cutAhead (by decide), isPrefixOf_cutAhead (by decide)]

/-- **What stands between two tokens is passed over in both texts**, by induction on the number of
comments. -/
private theorem skipBlanksUpTo_passes {n k : Nat} (hn : r.rest.length < n) (hk : n ≤ k) :
    ∃ s gap, Passes (skipBlanksUpTo n) (skipBlanksUpTo k) r s gap ∧ (AtMark r.rest → AtMark s.rest) := by
  induction n generalizing r k with
  | zero => exact absurd hn (Nat.not_lt_zero _)
  | succ n ih =>
    -- the bound is on the length of the text, so the one for the text that is cut is another one
    obtain ⟨k, rfl⟩ : ∃ k', k = k' + 1 := ⟨k - 1, by omega⟩
    obtain ⟨u, v, hr, hu, hv⟩ := exists_span isPassedOver r.rest
    obtain ⟨s, gap, hnext, hmark⟩ : ∃ s gap, Passes (behindBlanks n v) (behindBlanks k v)
        (r.behind u v (r.lineBreak || u.any isLineEnd)) s gap ∧ (AtMark v → AtMark s.rest) := by
      have hlength {t : Reader} {w : List Char} (h : v = '/' :: w ++ t.rest) : t.rest.length < n := by
        rw [hr, h] at hn
        simp at hn
        omega
      unfold behindBlanks
      by_cases hline : ['/', '/'].isPrefixOf v = true
      · -- behind a comment another one may stand
        obtain ⟨x, rfl⟩ := List.isPrefixOf_iff_prefix.1 hline
        obtain ⟨t, w, ht⟩ := skipLineComment_passes (u := x)
          (r := r.behind u (['/', '/'] ++ x) (r.lineBreak || u.any isLineEnd)) rfl
        obtain ⟨s, gap, hs, hmark⟩ := ih (hlength ht.text) (Nat.le_of_succ_le_succ hk)
        rw [if_pos hline, if_pos hline]
        exact ⟨s, _, ht.bind hs hmark, fun h => absurd h not_atMark_slash⟩
      · rw [if_neg hline, if_neg hline]
        by_cases hblock : ['/', '*'].isPrefixOf v = true
        · obtain ⟨x, rfl⟩ := List.isPrefixOf_iff_prefix.1 hblock
          obtain ⟨t, w, ht⟩ := skipBlockComment_passes (u := x)
            (r := r.behind u (['/', '*'] ++ x) (r.lineBreak || u.any isLineEnd)) rfl
          obtain ⟨s, gap, hs, hmark⟩ := ih (hlength ht.text) (Nat.le_of_succ_le_succ hk)
          rw [if_pos hblock, if_pos hblock]
          exact ⟨s, _, ht.bind hs hmark, fun h => absurd h not_atMark_slash⟩
        · rw [if_neg hblock, if_neg hblock]
          exact ⟨_, [], ⟨rfl, rfl, fun r' hr' _ _ => ⟨r', rfl, hr'⟩⟩, id⟩
    refine ⟨s, u ++ gap, ⟨(skipBlanksUpTo_succ hu hv hr).trans hnext.run, ?_, fun r' hr' hblank hs => ?_⟩,
      fun h => hmark (atMark_of_append hu (hr ▸ h))⟩
    · rw [hr, List.append_assoc, ← hnext.text]
      rfl
    · have hrest : r'.rest = u ++ cutAhead v := by
        rw [hr'.rest, hr, cutAhead_blanks hu fun hv => hs (hmark hv)]
      rw [skipBlanksUpTo_succ hu (by rwa [head?_cutAhead]) hrest, behindBlanks_cutAhead, hr'.lineBreak]
      exact hnext.cut _ hr'.behind (fun hmem => hblank (List.mem_append_right _ hmem)) hs

/-- What is passed over stands before what is ahead then. -/
theorem exists_gap (h : skipBlanks r = .ok () s) : ∃ gap, r.rest = gap ++ s.rest := by
  obtain ⟨t, gap, ht, -⟩ := skipBlanksUpTo_passes (Nat.lt_succ_self r.rest.length) (Nat.le_refl _)
  have hrun : skipBlanks r = .ok () t := ht.run
  rw [h] at hrun
  cases hrun
  exact ⟨gap, ht.text⟩

/-- **What stands between two tokens is passed over in the text whose lines are cut**, and the same
text is ahead behind it, with its lines cut. The state differs in nothing but places: the same
comments are kept, and a line has ended in both texts or in none of them. -/
theorem skipBlanks_cut {gap : List Char} (hr' : r.Cut r') (h : skipBlanks r = .ok () s)
    (hgap : r.rest = gap ++ s.rest) (hblank : '\u0085' ∉ gap) (hmark : ¬ AtMark s.rest) :
    ∃ s', skipBlanks r' = .ok () s' ∧ s.Cut s' := by
  have hlength : r.rest.length + 1 ≤ r'.rest.length + 1 := by
    rw [hr'.rest]
    exact Nat.succ_le_succ (length_le_cutAhead _)
  obtain ⟨t, gap', ht, -⟩ := skipBlanksUpTo_passes (Nat.lt_succ_self r.rest.length) hlength
  -- there is one state behind the gap, and so one gap
  obtain rfl : t = s := by
    have hrun : skipBlanks r = .ok () t := ht.run
    rw [h] at hrun
    cases hrun
    rfl
  obtain rfl : gap' = gap := List.append_cancel_right (ht.text.symm.trans hgap)
  exact ht.cut r' hr' hblank hmark

end Read

end EnvSchema.Script
