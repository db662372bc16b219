import EnvSchema.Proofs.Steps
import EnvSchema.Script.Reader.Words
import EnvSchema.Text.Quoted

/-!
# Passing text

A step that takes characters leaves the state behind them, with everything else as it was. So what it
does is said by the characters that it takes and those that it leaves ahead.

* `Reader.past` — the state behind some text;
* `Read.takeWhile_past`, `Read.char?_apply` — the steps that words are read with;
* `Read.word_past` — a word is read up to its end;
* `Read.quoted_past` — what has been written between quotes is read again.

For a quoted text the characters that need no escape are taken in one step, so the induction is on
what is left behind the next escape.
-/

namespace EnvSchema.Script

/-- **The state behind a text**, with the other text ahead. -/
def Reader.past (r : Reader) (taken ahead : List Char) : Reader :=
  { r with rest := ahead, pos := r.pos + taken.length }

namespace Read

variable {r : Reader} {u v cs : List Char}

/-- Behind two texts, one after the other. -/
theorem past_past {w : List Char} : (r.past u w).past v cs = r.past (u ++ v) cs := by
  simp [Reader.past, Nat.add_assoc]

/-- Taking a number of characters. -/
theorem skip_past (h : r.rest = u ++ cs) : skip u.length r = .ok () (r.past u cs) := by
  change EStateM.Result.ok () _ = _
  simp [Reader.past, h]

/-- Taking the characters that satisfy a condition, where the next one does not. -/
theorem takeWhile_past {p : Char → Bool} (h : r.rest = u ++ cs) (hu : ∀ c ∈ u, p c = true)
    (hc : ∀ c ∈ cs.head?, p c = false) : takeWhile p r = .ok u (r.past u cs) := by
  have htaken : r.rest.takeWhile p = u := by
    rw [h, List.takeWhile_append_of_pos hu]
    cases cs with
    | nil => simp
    | cons c cs => simp [hc c rfl]
  have hskip := skip_past h
  change (skip (r.rest.takeWhile p).length >>= fun _ => pure (r.rest.takeWhile p)) r = _
  rw [htaken, bind_of_ok hskip]
  rfl

/-- The character ahead. -/
theorem char?_apply : char? r = .ok r.rest.head? r := rfl

/-- A character that is not ahead is not taken. -/
theorem eatChar_of_ne {c : Char} (h : r.rest.head? ≠ some c) : eatChar c r = .ok false r := by
  unfold eatChar
  rw [bind_of_ok char?_apply, if_neg (by simpa using h)]
  rfl

/-! ### Steps in steps -/

variable {α β γ : Type} {step : β → Read (β ⊕ γ)} {r' : Reader} {b b' : β} {c : γ} {n : Nat}

/-- A step that answers has its answer as an outcome. -/
theorem outcome_of_ok {step : Read α} {a : α} (h : step r = .ok a r') :
    outcome step r = .ok (.ok a) r' := by
  rw [outcome, h]

/-- A loop repeats its step, with the size of the text as a bound. -/
theorem loop_apply : loop b step r = iterate step (r.size + 8) b r := rfl

/-- A step that answers ends the repetition. -/
theorem iterate_of_inr (h : step b r = .ok (.inr c) r') : iterate step (n + 1) b r = .ok c r' := by
  rw [iterate, bind_of_ok h]
  rfl

/-- A step that does not answer is followed by another one. -/
theorem iterate_of_inl (h : step b r = .ok (.inl b') r') :
    iterate step (n + 1) b r = iterate step n b' r' := by
  rw [iterate, bind_of_ok h]

/-! ### Words -/

/-- Whether a character behind a word ends it. -/
def endsWord (c : Char) : Bool := !Text.isIdentPart c && c != '\\'

/-- **A word is read up to its end.** -/
theorem wordText_past (h : r.rest = u ++ cs) (hu : ∀ c ∈ u, Text.isIdentPart c = true)
    (hc : ∀ c ∈ cs.head?, endsWord c = true) :
    wordText r = .ok (String.ofList u, false) (r.past u cs) := by
  unfold wordText
  rw [loop_apply]
  refine iterate_of_inr (Answers.eq ?_)
  refine .bind_eq (takeWhile_past h hu fun c hcs => ?_) ?_
  · have hends := hc c hcs
    simp_all [endsWord]
  refine .bind_eq char?_apply ?_
  split
  · -- what ends a word is no backslash, which would start another part of it
    next hback => exact absurd (hc _ hback) (by decide)
  · refine .pure ⟨?_, rfl⟩
    simp

/-- A word as a token. -/
theorem word_past (h : r.rest = u ++ cs) (hu : ∀ c ∈ u, Text.isIdentPart c = true)
    (hc : ∀ c ∈ cs.head?, endsWord c = true) :
    word r = .ok (.word (String.ofList u)) (r.past u cs) := by
  unfold word
  change (wordText >>= _) r = _
  rw [bind_of_ok (wordText_past h hu hc)]
  rfl

/-! ### Quoted texts -/

/-- Whether a character is read between double quotes as it stands. -/
def isUnquoted (c : Char) : Bool := c != '"' && c != '\\' && c != '\n' && c != '\r'

/-- A character that is written as it is between quotes is read as it stands. -/
theorem isUnquoted_of_escaped {c : Char} (h : Text.escaped c = [c]) : isUnquoted c = true := by
  have hne (d : Char) (hd : Text.escaped d ≠ [d]) : c ≠ d := by
    rintro rfl
    exact hd h
  have hquote := hne '"' (by decide)
  have hback := hne '\\' (by decide)
  have hline := hne '\n' (by decide)
  have hreturn := hne '\r' (by decide)
  simp [isUnquoted, hquote, hback, hline, hreturn]

/-- The digit of a number below sixteen stands for that number, and it is no separator. -/
private theorem digitValue?_digitChar : ∀ n < 16,
    Number.digitValue? 16 (Nat.digitChar n) = some n ∧ Nat.digitChar n ≠ '_' := by decide

/-- Four digits are read, and no more. -/
private theorem digits_past {a b c d : Nat} (ha : a < 16) (hb : b < 16) (hc : c < 16) (hd : d < 16)
    (h : r.rest = [a, b, c, d].map Nat.digitChar ++ cs) :
    digits 16 (some 4) r =
      .ok ([a, b, c, d].map Nat.digitChar) (r.past ([a, b, c, d].map Nat.digitChar) cs) := by
  -- each of the four characters is the digit of its number
  have hscan : Digits.scan 16 (some 4) r.rest =
      { digits := [a, b, c, d].map Nat.digitChar, taken := 4 } := by
    obtain ⟨hva, hna⟩ := digitValue?_digitChar a ha
    obtain ⟨hvb, hnb⟩ := digitValue?_digitChar b hb
    obtain ⟨hvc, hnc⟩ := digitValue?_digitChar c hc
    obtain ⟨hvd, hnd⟩ := digitValue?_digitChar d hd
    simp [h, Digits.scan, hva, hvb, hvc, hvd, hna, hnb, hnc, hnd]
  change (let run := Digits.scan 16 (some 4) r.rest; skip run.taken >>= fun _ => _ : Read _) r = _
  rw [hscan]
  exact bind_of_ok (skip_past h)

/-- An escape by code point, with four digits, is read as the character with that code point. -/
private theorem unicodeEscape_past {n : Nat} (hn : n < 0x20)
    (h : r.rest = 'u' :: ([0, 0, n / 16, n % 16].map Nat.digitChar ++ cs)) :
    unicodeEscape r =
      .ok [Char.ofNat n] (r.past ('u' :: [0, 0, n / 16, n % 16].map Nat.digitChar) cs) := by
  have hhigh : n / 16 < 16 := by omega
  have hlow : n % 16 < 16 := Nat.mod_lt _ (by decide)
  have hvalue : Number.ofDigits 16 ([0, 0, n / 16, n % 16].map Nat.digitChar) = n := by
    simp [Number.ofDigits, (digitValue?_digitChar 0 (by decide)).1, (digitValue?_digitChar _ hhigh).1,
      (digitValue?_digitChar _ hlow).1]
    omega
  -- a control character is far below those that no text may hold
  have hvalid : Nat.isValidChar n := .inl (by omega)
  unfold unicodeEscape
  refine Answers.eq ?_
  refine .bind_eq (skip_past (u := ['u']) h) ?_
  refine .bind_eq (eatChar_of_ne (c := '\x7b') (by simp [Reader.past])) ?_
  refine .bind_eq rfl ?_
  have hdigits (r : Reader) (h : r.rest = [0, 0, n / 16, n % 16].map Nat.digitChar ++ cs) :=
    digits_past (by decide) (by decide) hhigh hlow h
  refine .bind_eq (hdigits _ rfl) ?_
  refine .bind_eq rfl ?_
  dsimp only
  rw [hvalue, if_neg (by simp; omega), if_neg (by omega), if_pos hvalid]
  refine .bind_eq (a := false) rfl ?_
  refine .pure ⟨rfl, ?_⟩
  simp [Reader.past, Nat.add_assoc]

/-- The letters that stand behind a backslash for characters. -/
private def letters : List (Char × Char) :=
  [('"', '"'), ('\\', '\\'), ('n', '\n'), ('r', '\r'), ('t', '\t'), ('b', '\x08'), ('f', '\x0c')]

/-- A letter behind a backslash is read as the character that it stands for. -/
private theorem escape_letter {c d : Char} (hc : (c, d) ∈ letters) (h : r.rest = '\\' :: c :: cs) :
    escape false r = .ok [d] (r.past ['\\', c] cs) := by
  have hone (e : Char) : Answers (skip 1 >>= fun _ => pure [e] : Read (List Char))
      (r.past ['\\'] (c :: cs)) fun b t => b = [e] ∧ t = r.past ['\\', c] cs :=
    .bind_eq (skip_past (u := [c]) rfl) (.pure ⟨rfl, rfl⟩)
  refine Answers.eq (.bind_eq rfl (.bind_eq (skip_past (u := ['\\']) h) (.bind_eq char?_apply ?_)))
  simp only [letters, List.mem_cons, Prod.mk.injEq, List.not_mem_nil, or_false] at hc
  rcases hc with ⟨rfl, rfl⟩ | ⟨rfl, rfl⟩ | ⟨rfl, rfl⟩ | ⟨rfl, rfl⟩ | ⟨rfl, rfl⟩ | ⟨rfl, rfl⟩ |
    ⟨rfl, rfl⟩
  all_goals exact hone _

/-- A character below the blank is read from its code point. -/
private theorem escape_control {n : Nat} (hn : n < 0x20)
    (h : r.rest = '\\' :: 'u' :: ([0, 0, n / 16, n % 16].map Nat.digitChar ++ cs)) :
    escape false r =
      .ok [Char.ofNat n] (r.past ('\\' :: 'u' :: [0, 0, n / 16, n % 16].map Nat.digitChar) cs) := by
  refine Answers.eq (.bind_eq rfl (.bind_eq (skip_past (u := ['\\']) h) (.bind_eq char?_apply ?_)))
  have hcode := unicodeEscape_past
    (r := r.past ['\\'] ('u' :: ([0, 0, n / 16, n % 16].map Nat.digitChar ++ cs))) hn rfl
  exact .bind_eq (outcome_of_ok hcode) (.pure ⟨rfl, past_past⟩)

/-- A character that is not written as it stands is written with a letter, or by its code point. -/
private theorem escaped_cases {c : Char} (hc : Text.escaped c ≠ [c]) :
    (∃ d, (d, c) ∈ letters ∧ Text.escaped c = ['\\', d]) ∨
      c.toNat < 0x20 ∧ Text.escaped c =
        '\\' :: 'u' :: [0, 0, c.toNat / 16, c.toNat % 16].map Nat.digitChar := by
  have hletters : ∀ p ∈ letters, Text.escaped p.2 = ['\\', p.1] := by decide
  by_cases hletter : ∃ d, (d, c) ∈ letters
  · obtain ⟨d, hd⟩ := hletter
    exact .inl ⟨d, hd, hletters _ hd⟩
  · -- none of the characters with a letter: it is written by its code point, or as it stands
    have hne (d e : Char) (hd : (d, e) ∈ letters) : c ≠ e := by
      rintro rfl
      exact hletter ⟨d, hd⟩
    rw [Text.escaped, if_neg (hne '"' _ (by decide)), if_neg (hne '\\' _ (by decide)),
      if_neg (hne 'n' _ (by decide)), if_neg (hne 'r' _ (by decide)), if_neg (hne 't' _ (by decide)),
      if_neg (hne 'b' _ (by decide)), if_neg (hne 'f' _ (by decide))] at hc ⊢
    by_cases hlow : c.toNat < 0x20
    · exact .inr ⟨hlow, if_pos hlow⟩
    · exact absurd (if_neg hlow) hc

/-- **An escape is read** as the character that it has been written for. -/
theorem escape_past {c : Char} (hc : Text.escaped c ≠ [c]) (h : r.rest = Text.escaped c ++ cs) :
    escape false r = .ok [c] (r.past (Text.escaped c) cs) := by
  rcases escaped_cases hc with ⟨d, hd, hesc⟩ | ⟨hlow, hesc⟩
  · rw [hesc] at h ⊢
    exact escape_letter hd h
  · rw [hesc] at h ⊢
    have hread := escape_control hlow h
    rwa [Char.ofNat_toNat] at hread

/-- An escape starts with a backslash. -/
private theorem head?_escaped {c : Char} (hc : Text.escaped c ≠ [c]) :
    (Text.escaped c).head? = some '\\' := by
  rcases escaped_cases hc with ⟨d, -, hesc⟩ | ⟨-, hesc⟩ <;> rw [hesc] <;> rfl

/-- A text is written as it stands up to the first escape. -/
private theorem exists_unescaped (s : List Char) :
    ∃ p t, s = p ++ t ∧ (∀ c ∈ p, Text.escaped c = [c]) ∧
      (t = [] ∨ ∃ c t', t = c :: t' ∧ Text.escaped c ≠ [c]) := by
  induction s with
  | nil => exact ⟨[], [], rfl, by simp, .inl rfl⟩
  | cons c s ih =>
    by_cases hc : Text.escaped c = [c]
    · obtain ⟨p, t, rfl, hp, ht⟩ := ih
      refine ⟨c :: p, t, rfl, ?_, ht⟩
      simpa [hc] using hp
    · exact ⟨[], c :: s, rfl, by simp, .inr ⟨c, s, rfl, hc⟩⟩

/-- Characters that are written as they stand are written as they are. -/
private theorem flatMap_escaped {p : List Char} (hp : ∀ c ∈ p, Text.escaped c = [c]) :
    p.flatMap Text.escaped = p := by
  induction p with
  | nil => rfl
  | cons c p ih =>
    rw [List.flatMap_cons, hp c (by simp), ih fun d hd => hp d (by simp [hd])]
    rfl

/-- One round of reading what stands between quotes: characters as they stand, and what ends
them. -/
private def quotedRound (start : Nat) (out : List (List Char)) :
    Read (List (List Char) ⊕ List Char) := do
  let out := (← takeWhile isUnquoted) :: out
  match ← char? with
  | some '\\' => return .inl ((← escape false) :: out)
  | some c =>
    if c == '"' then skip 1 else recordFrom start .unterminatedString
    return .inr out.reverse.flatten
  | none =>
    recordFrom start .unterminatedString
    return .inr out.reverse.flatten

/-- A round that comes to the closing quote ends the text. -/
private theorem quotedRound_end {p : List Char} (start : Nat) (out : List (List Char))
    (hp : ∀ c ∈ p, isUnquoted c = true) (h : r.rest = p ++ '"' :: cs) :
    quotedRound start out r = .ok (.inr (out.reverse.flatten ++ p)) (r.past (p ++ ['"']) cs) := by
  refine Answers.eq (.bind_eq (takeWhile_past h hp ?_) ?_)
  · rintro _ ⟨⟩
    rfl
  · refine .bind_eq char?_apply (.bind_eq (skip_past (u := ['"']) rfl) ?_)
    exact .pure ⟨by simp, past_past⟩

/-- A round that comes to an escape reads it. -/
private theorem quotedRound_escape {p : List Char} {c : Char} (start : Nat) (out : List (List Char))
    (hp : ∀ c ∈ p, isUnquoted c = true) (hc : Text.escaped c ≠ [c])
    (h : r.rest = p ++ (Text.escaped c ++ cs)) :
    quotedRound start out r = .ok (.inl ([c] :: p :: out)) (r.past (p ++ Text.escaped c) cs) := by
  -- the plain characters end at the backslash
  have hhead : (Text.escaped c ++ cs).head? = some '\\' := by
    rw [List.head?_append, head?_escaped hc]
    rfl
  have hchar : char? (r.past p (Text.escaped c ++ cs)) =
      .ok (some '\\') (r.past p (Text.escaped c ++ cs)) :=
    congrArg (EStateM.Result.ok · _) hhead
  refine Answers.eq (.bind_eq (takeWhile_past h hp ?_) ?_)
  · rw [hhead]
    rintro _ ⟨⟩
    rfl
  · refine .bind_eq hchar (.bind_eq (escape_past hc rfl) ?_)
    exact .pure ⟨rfl, past_past⟩

/-- What stands between quotes is read round by round; the bound is on the number of escapes. -/
private theorem quotedBody_past (s : List Char) (out : List (List Char)) (n start : Nat)
    (hn : s.length < n) (h : r.rest = s.flatMap Text.escaped ++ '"' :: cs) :
    iterate (quotedRound start) n out r =
      .ok (out.reverse.flatten ++ s) (r.past (s.flatMap Text.escaped ++ ['"']) cs) := by
  induction n generalizing s out r with
  | zero => exact absurd hn (Nat.not_lt_zero _)
  | succ n ih =>
    -- a round takes what is written as it stands, and the escape behind it, if there is one
    obtain ⟨p, t, rfl, hp, ht⟩ := exists_unescaped s
    rw [List.flatMap_append, flatMap_escaped hp] at h ⊢
    have hunquoted : ∀ c ∈ p, isUnquoted c = true := fun c hc => isUnquoted_of_escaped (hp c hc)
    rcases ht with rfl | ⟨c, t, rfl, hc⟩
    · rw [List.flatMap_nil, List.append_nil] at h ⊢
      exact iterate_of_inr (quotedRound_end start out hunquoted h)
    · rw [List.flatMap_cons] at h ⊢
      simp only [List.append_assoc] at h
      rw [iterate_of_inl (quotedRound_escape start out hunquoted hc h), ih t _ ?_ rfl, past_past]
      · simp
      · simp only [List.length_append, List.length_cons] at hn
        omega

/-- **What has been written between quotes is read again**, with the text as it was written. -/
theorem quoted_past {s : String} (hsize : s.toList.length < r.size + 8)
    (h : r.rest = (Text.quoted s).toList ++ cs) :
    quoted r = .ok (.string s (Text.quoted s)) (r.past (Text.quoted s).toList cs) := by
  have htext : (Text.quoted s).toList = '"' :: (s.toList.flatMap Text.escaped ++ ['"']) := by
    simp [Text.quoted]
  have hrest : r.rest = '"' :: (s.toList.flatMap Text.escaped ++ '"' :: cs) := by
    rw [h, htext]
    simp
  have hchar : char? r = .ok (some '"') r := congrArg (EStateM.Result.ok · r) (by rw [hrest]; rfl)
  refine Answers.eq (.bind_eq rfl (.bind_eq hchar (.bind_eq (skip_past (u := ['"']) hrest) ?_)))
  refine .bind_eq (quotedBody_past s.toList [] (r.size + 8) r.pos hsize rfl) ?_
  -- the raw text is all that has been passed over since the quote
  have hpassed : passedSince r (r.past (Text.quoted s).toList cs) =
      .ok (Text.quoted s) (r.past (Text.quoted s).toList cs) := by
    change EStateM.Result.ok (String.ofList (r.rest.take (r.pos + _ - r.pos))) _ = _
    rw [h, Nat.add_sub_cancel_left, List.take_left', String.ofList_toList]
    rfl
  rw [past_past, List.cons_append, List.nil_append, ← htext]
  refine .bind_eq hpassed (.pure ⟨?_, rfl⟩)
  simp

/-- A text is no longer than what is written for it. -/
theorem length_le_quoted (s : String) : s.toList.length ≤ (Text.quoted s).toList.length := by
  have hlength (cs : List Char) : cs.length ≤ (cs.flatMap Text.escaped).length := by
    induction cs with
    | nil => exact Nat.zero_le _
    | cons c cs ih =>
      -- no character vanishes
      have hone : 1 ≤ (Text.escaped c).length := by
        by_cases hc : Text.escaped c = [c]
        · simp [hc]
        · exact List.length_pos_iff.2 fun he => by simpa [he] using head?_escaped hc
      rw [List.flatMap_cons, List.length_append, List.length_cons]
      omega
  have hs := hlength s.toList
  simp only [Text.quoted, String.toList_append, List.length_append, String.toList_ofList]
  omega

end Read

end EnvSchema.Script
