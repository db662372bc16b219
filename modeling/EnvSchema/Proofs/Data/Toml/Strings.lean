import EnvSchema.Data.Toml.Reader.Strings
import EnvSchema.Data.Toml.Writer
import EnvSchema.Proofs.Steps

/-!
# Strings are read back

A string is written in the first of four styles in which it needs no escapes, and else with escapes.
Whatever the style, reading gives the string back. Where several quotes may stand in a row the reader
looks ahead of them; so what is shown of it is shown of a text that starts with as many quotes as may
have been written in a row so far.

* `KeepsQuotes` — what quotes in a row stand for between three quotes on each side;
* `codeDigits_of_isControl` — the code of a character that only controls a device;
* `Extends` — one more character between double quotes;
* `basicBody_escaped`, `basicLinesBody_escaped` — escapes between double quotes;
* `literalBody_append`, `literalLinesBody_append` — texts between single quotes;
* `string_quotedChars` — **what is written for a string is read as that string**.
-/

namespace EnvSchema.Data.Toml

variable {c : Char} {cs rest xs text : List Char}

/-! ### Quotes in a row -/

/-- **Quotes in a row** belong to a string as long as they do not close it. -/
structure KeepsQuotes (quote : Char) (next : Char → Prop)
    (body : List Char → Except Stop (List Char × List Char)) : Prop where
  /-- Up to two quotes before something else. -/
  before : ∀ {n c text xs rest}, n ≤ 2 → next c → body (c :: text) = .ok (xs, rest) →
    body (List.replicate n quote ++ c :: text) = .ok (List.replicate n quote ++ xs, rest)
  /-- Up to two quotes before the closing ones. -/
  closing : ∀ {n rest}, n ≤ 2 → (∀ c ∈ rest.head?, c ≠ quote) →
    body (List.replicate n quote ++ quote :: quote :: quote :: rest) = .ok (List.replicate n quote, rest)

theorem basicLinesBody_keepsQuotes : KeepsQuotes '"' (· ≠ '"') (basicLinesBody false) where
  before {n c text xs rest} hn hc h := by
    -- fewer than three quotes before something else are quotes of the text
    match n, hn with
    | 0, _ => exact h
    | 1, _ =>
      rw [List.replicate_one, List.singleton_append, basicLinesBody, h]
      · rfl
      all_goals simp [hc]
    | 2, _ =>
      change basicLinesBody false ('"' :: '"' :: c :: text) = _
      rw [basicLinesBody, basicLinesBody, h]
      · rfl
      all_goals simp [hc]
  closing {n rest} hn hrest := by
    have hhead (cs : List Char) : rest ≠ '"' :: cs := by
      rintro rfl
      exact hrest '"' rfl rfl
    -- of five quotes at most, the last three close the text
    match n, hn with
    | 0, _ =>
      change basicLinesBody false ('"' :: '"' :: '"' :: rest) = _
      rw [basicLinesBody]
      · rfl
      all_goals simp [hhead]
    | 1, _ =>
      change basicLinesBody false ('"' :: '"' :: '"' :: '"' :: rest) = _
      rw [basicLinesBody]
      · rfl
      all_goals simp [hhead]
    | 2, _ =>
      change basicLinesBody false ('"' :: '"' :: '"' :: '"' :: '"' :: rest) = _
      rw [basicLinesBody]
      rfl

theorem isLiteralChar_iff : isLiteralChar c = true ↔ isVisible c = true ∧ c ≠ '\'' := by
  simp [isLiteralChar]

theorem literalLinesBody_keepsQuotes :
    KeepsQuotes '\'' (fun c => isLiteralChar c = true ∨ c = '\n') literalLinesBody where
  before {n c text xs rest} hn hc h := by
    have hgoes : goesOn (c :: text) = true := by
      rcases hc with hc | rfl
      · simp [goesOn, hc]
      · rfl
    have hquote : c ≠ '\'' := by
      rcases hc with hc | rfl
      · exact (isLiteralChar_iff.1 hc).2
      · decide
    -- fewer than three quotes before something else are quotes of the text
    match n, hn with
    | 0, _ => exact h
    | 1, _ =>
      change literalLinesBody ('\'' :: c :: text) = _
      rw [literalLinesBody]
      · rw [if_pos hgoes, h]
        rfl
      all_goals simp [hquote]
    | 2, _ =>
      change literalLinesBody ('\'' :: '\'' :: c :: text) = _
      rw [literalLinesBody]
      · rw [if_pos hgoes, h]
        rfl
      all_goals simp [hquote]
  closing {n rest} hn hrest := by
    have hhead (cs : List Char) : rest ≠ '\'' :: cs := by
      rintro rfl
      exact hrest '\'' rfl rfl
    -- of five quotes at most, the last three close the text
    match n, hn with
    | 0, _ =>
      change literalLinesBody ('\'' :: '\'' :: '\'' :: rest) = _
      rw [literalLinesBody]
      all_goals simp [hhead]
    | 1, _ =>
      change literalLinesBody ('\'' :: '\'' :: '\'' :: '\'' :: rest) = _
      rw [literalLinesBody]
      · rfl
      all_goals simp [hhead]
    | 2, _ =>
      change literalLinesBody ('\'' :: '\'' :: '\'' :: '\'' :: '\'' :: rest) = _
      rw [literalLinesBody]
      rfl

/-! ### Characters -/

/-- The code of a character that only controls a device has four digits, which say it. -/
theorem codeDigits_of_isControl (h : isControl c = true) : ∃ a b d e, codeDigits c.toNat = [a, b, d, e] ∧
    ∀ left, ofCode .shortCode [a, b, d, e] left = .ok c := by
  have hsmall : c.toNat < 128 := by
    simp only [isControl, Bool.or_eq_true, Bool.and_eq_true, decide_eq_true_eq, beq_iff_eq] at h
    omega
  -- the characters that only control a device are few, so their codes are looked at one by one
  have hall : ∀ n < 128, isControl (Char.ofNat n) = true → (codeDigits n).length = 4 ∧
      ((codeDigits n).mapM (Number.digitValue? 16)).map (fun ds => ds.foldl (fun n d => 16 * n + d) 0) =
        some n := by
    decide +kernel
  obtain ⟨hlength, hcode⟩ := hall c.toNat hsmall (by rwa [Char.ofNat_toNat])
  obtain ⟨ds, hds, hsum⟩ := Option.map_eq_some_iff.1 hcode
  match hdigits : codeDigits c.toNat, hlength with
  | [a, b, d, e], _ =>
    refine ⟨a, b, d, e, rfl, fun left => ?_⟩
    rw [hdigits] at hds
    unfold ofCode
    rw [hds]
    dsimp only
    have hvalid : c.toNat.isValidChar := c.valid
    have hchar := Char.ofNat_toNat c
    rw [Char.ofNat, dif_pos hvalid] at hchar
    rw [hsum, dif_pos hvalid, hchar]

/-- A character that needs no escape stands for itself. -/
theorem isVisible_of_not_isControl (h : isControl c = false) (hline : c ≠ '\n') : isVisible c = true := by
  simp only [isControl, isVisible, Bool.or_eq_false_iff, Bool.and_eq_false_iff, decide_eq_false_iff_not,
    bne_eq_false_iff_eq, beq_eq_false_iff_ne, Bool.or_eq_true, beq_iff_eq, Bool.and_eq_true,
    decide_eq_true_eq, bne_iff_ne] at h ⊢
  by_cases htab : c = '\t'
  · exact .inl htab
  · exact .inr ⟨by simpa [htab, hline] using h.1, h.2⟩

/-- How a character is written between double quotes that is neither a quote nor the end of a line. -/
def shown (c : Char) : List Char := (escape? c).getD [c]

theorem escaped_cons {allowed before : Nat} (hquote : c ≠ '"') (hline : c ≠ '\n') :
    escaped allowed before (c :: cs) = shown c ++ escaped allowed 0 cs := by
  rw [escaped, shown]
  · cases escape? c <;> rfl
  · exact hquote
  · exact hline

/-- **A character as it is written**: with a letter behind a backslash, with its code, or as it is. -/
theorem shown_cases (hquote : c ≠ '"') (hline : c ≠ '\n') :
    (∃ x, shown c = ['\\', x] ∧ escaped? x = some c ∧ x ≠ 'u' ∧ x ≠ 'U' ∧
        ∀ text, endsLine (x :: text) = false) ∨
      (∃ a b d e, shown c = ['\\', 'u', a, b, d, e] ∧ ∀ left, ofCode .shortCode [a, b, d, e] left = .ok c) ∨
      shown c = [c] ∧ isBasicChar c = true := by
  -- a character is shown by a letter of its own, by its code, or as it is
  unfold shown escape?
  split
  · exact .inl ⟨'b', rfl, rfl, by decide, by decide, fun _ => rfl⟩
  · exact .inl ⟨'t', rfl, rfl, by decide, by decide, fun _ => rfl⟩
  · exact .inl ⟨'f', rfl, rfl, by decide, by decide, fun _ => rfl⟩
  · exact .inl ⟨'r', rfl, rfl, by decide, by decide, fun _ => rfl⟩
  · exact .inl ⟨'\\', rfl, rfl, by decide, by decide, fun _ => rfl⟩
  · next hbackslash =>
    split
    · next hcontrol =>
      obtain ⟨a, b, d, e, hdigits, hcode⟩ := codeDigits_of_isControl hcontrol
      exact .inr (.inl ⟨a, b, d, e, by rw [hdigits]; rfl, hcode⟩)
    · next hcontrol =>
      refine .inr (.inr ⟨rfl, ?_⟩)
      have hvisible := isVisible_of_not_isControl (by simpa using hcontrol) hline
      simp only [isBasicChar, Bool.and_eq_true, bne_iff_ne]
      exact ⟨⟨hvisible, hquote⟩, hbackslash⟩

theorem isBasicChar_iff : isBasicChar c = true ↔ isVisible c = true ∧ c ≠ '"' ∧ c ≠ '\\' := by
  simp [isBasicChar, and_assoc]

/-! ### Between double quotes -/

/-- **A text says one more character** when the character is written in front of it, in whatever way. -/
structure Extends (body : List Char → Except Stop (List Char × List Char)) (text xs rest : List Char) :
    Prop where
  /-- It stands for itself. -/
  plain : ∀ {c}, isBasicChar c = true → body (c :: text) = .ok (c :: xs, rest)
  /-- It is written with a letter behind a backslash. -/
  letter : ∀ {x c}, escaped? x = some c → x ≠ 'u' → x ≠ 'U' → (∀ text, endsLine (x :: text) = false) →
    body ('\\' :: x :: text) = .ok (c :: xs, rest)
  /-- It is written with its code. -/
  code : ∀ {a b d e c}, (∀ left, ofCode .shortCode [a, b, d, e] left = .ok c) →
    body ('\\' :: 'u' :: a :: b :: d :: e :: text) = .ok (c :: xs, rest)

/-- A character is read as it is written. -/
theorem Extends.shown_append {body : List Char → Except Stop (List Char × List Char)}
    (h : Extends body text xs rest) (hquote : c ≠ '"') (hline : c ≠ '\n') :
    body (shown c ++ text) = .ok (c :: xs, rest) := by
  rcases shown_cases hquote hline with ⟨x, hx, hescaped, hu, hU, hends⟩ | ⟨a, b, d, e, hcode, hread⟩ |
    ⟨hx, hbasic⟩
  · exact hx ▸ h.letter hescaped hu hU hends
  · exact hcode ▸ h.code hread
  · exact hx ▸ h.plain hbasic

theorem basicBody_extends (h : basicBody text = .ok (xs, rest)) : Extends basicBody text xs rest where
  plain {c} hc := by
    obtain ⟨-, hquote, hbackslash⟩ := isBasicChar_iff.1 hc
    rw [basicBody]
    · rw [if_pos hc, h]
      rfl
    all_goals simp [hquote, hbackslash]
  letter {x c} hx hu hU _ := by
    rw [basicBody]
    · rw [hx, h]
      rfl
    all_goals simp [hu, hU]
  code hcode := by
    rw [basicBody, hcode, h]
    rfl

/-- **What is written in double quotes on one line** is read up to the closing quote. -/
theorem basicBody_escaped (before : Nat) (cs rest : List Char) :
    basicBody (escaped 0 before cs ++ '"' :: rest) = .ok (cs, rest) := by
  induction cs generalizing before with
  | nil => rfl
  | cons c cs ih =>
    have hextends := basicBody_extends (ih 0)
    by_cases hquote : c = '"'
    · subst hquote
      exact hextends.letter rfl (by decide) (by decide) (fun _ => rfl)
    by_cases hline : c = '\n'
    · subst hline
      exact hextends.letter rfl (by decide) (by decide) (fun _ => rfl)
    rw [escaped_cons hquote hline, List.append_assoc]
    exact hextends.shown_append hquote hline

/-! ### Between three double quotes -/

theorem basicLinesBody_extends (h : basicLinesBody false text = .ok (xs, rest)) :
    Extends (basicLinesBody false) text xs rest where
  plain {c} hc := by
    obtain ⟨hvisible, hquote, hbackslash⟩ := isBasicChar_iff.1 hc
    have hreturn : c ≠ '\r' := by
      rintro rfl
      exact absurd hvisible (by decide)
    rw [basicLinesBody]
    · rw [if_pos (by simp [hc])]
      simp only [Bool.false_and, h]
      rfl
    all_goals simp [hquote, hbackslash, hreturn]
  letter {x c} hx hu hU hends := by
    rw [basicLinesBody]
    · rw [hends, hx, h]
      rfl
    all_goals simp [hu, hU]
  code hcode := by
    rw [basicLinesBody, hcode, h]
    rfl

/-- The end of a line stands for itself. -/
theorem basicLinesBody_newline (h : basicLinesBody false text = .ok (xs, rest)) :
    basicLinesBody false ('\n' :: text) = .ok ('\n' :: xs, rest) := by
  change (basicLinesBody false text >>= _) = _
  rw [h]
  rfl

/-- What a character is written with starts with no quote. -/
private theorem exists_shown (hquote : c ≠ '"') (hline : c ≠ '\n') : ∃ x t, shown c = x :: t ∧ x ≠ '"' := by
  rcases shown_cases hquote hline with ⟨x, hx, -⟩ | ⟨a, b, d, e, hcode, -⟩ | ⟨hx, -⟩
  · exact ⟨_, _, hx, by decide⟩
  · exact ⟨_, _, hcode, by decide⟩
  · exact ⟨_, _, hx, hquote⟩

/-- **What is written in three double quotes** is read up to the closing ones, from up to two quotes on
that have been written before. -/
theorem basicLinesBody_escaped {before : Nat} (hbefore : before ≤ 2) (cs : List Char)
    (hrest : ∀ c ∈ rest.head?, c ≠ '"') :
    basicLinesBody false (List.replicate before '"' ++ (escaped 2 before cs ++ '"' :: '"' :: '"' :: rest)) =
      .ok (List.replicate before '"' ++ cs, rest) := by
  induction cs generalizing before with
  | nil =>
    rw [List.append_nil]
    exact basicLinesBody_keepsQuotes.closing hbefore hrest
  | cons c cs ih =>
    have ih0 := ih (Nat.zero_le 2)
    by_cases hquote : c = '"'
    · subst hquote
      rw [escaped]
      split
      · next hlt =>
        -- one more quote has been written
        have hmore := ih (Nat.succ_le_of_lt hlt)
        rwa [List.replicate_succ', List.append_assoc, List.append_assoc] at hmore
      · exact basicLinesBody_keepsQuotes.before hbefore (by decide)
          ((basicLinesBody_extends ih0).letter rfl (by decide) (by decide) (fun _ => rfl))
    by_cases hline : c = '\n'
    · subst hline
      exact basicLinesBody_keepsQuotes.before hbefore (by decide) (basicLinesBody_newline ih0)
    rw [escaped_cons hquote hline, List.append_assoc]
    have hread := (basicLinesBody_extends ih0).shown_append hquote hline
    obtain ⟨x, t, hx, hne⟩ := exists_shown hquote hline
    rw [hx] at hread ⊢
    exact basicLinesBody_keepsQuotes.before hbefore hne hread

/-! ### Between single quotes -/

/-- **What stands in single quotes** is read up to the closing one. -/
theorem literalBody_append (h : ∀ c ∈ cs, isLiteralChar c = true) (rest : List Char) :
    literalBody (cs ++ '\'' :: rest) = .ok (cs, rest) := by
  induction cs with
  | nil => rfl
  | cons c cs ih =>
    obtain ⟨hc, hcs⟩ := List.forall_mem_cons.1 h
    rw [List.cons_append, literalBody]
    · rw [if_pos hc, ih hcs]
      rfl
    · simp [(isLiteralChar_iff.1 hc).2]

/-- A character that stands for itself, or the end of a line. -/
private theorem literalLinesBody_cons (hc : isLiteralChar c = true ∨ c = '\n')
    (h : literalLinesBody text = .ok (xs, rest)) : literalLinesBody (c :: text) = .ok (c :: xs, rest) := by
  have hquote : c ≠ '\'' := by
    rcases hc with hc | rfl
    · exact (isLiteralChar_iff.1 hc).2
    · decide
  have hreturn : c ≠ '\r' := by
    rcases hc with hc | rfl
    · rintro rfl
      exact absurd hc (by decide)
    · decide
  rw [literalLinesBody]
  · rw [if_pos (by simpa using hc), h]
    rfl
  all_goals simp [hquote, hreturn]

/-- The longest run is no shorter than one that has been met. -/
private theorem le_longestRun_go (x : Char) (longest current : Nat) (cs : List Char) :
    longest ≤ longestRun.go x longest current cs := by
  induction cs generalizing longest current with
  | nil => exact Nat.le_refl _
  | cons c cs ih =>
    rw [longestRun.go]
    split
    · exact Nat.le_trans (Nat.le_max_left _ _) (ih _ _)
    · exact ih _ _

/-- A character that has no run is nowhere. -/
private theorem not_mem_of_longestRun_go {x : Char} {longest current : Nat}
    (h : longestRun.go x longest current cs = 0) : x ∉ cs := by
  induction cs generalizing longest current with
  | nil => exact List.not_mem_nil
  | cons c cs ih =>
    rw [longestRun.go] at h
    split at h
    · have hle := le_longestRun_go x (max longest (current + 1)) (current + 1) cs
      omega
    · next hc => exact fun hmem => (List.mem_cons.1 hmem).elim (fun hx => hc hx.symm) (ih h)

/-- **What stands in three single quotes** is read up to the closing ones, from up to two quotes on that
have been read before, if no more than two follow one another. -/
theorem literalLinesBody_append {before longest : Nat} (hbefore : before ≤ 2)
    (hrun : longestRun.go '\'' longest before cs ≤ 2)
    (hcs : ∀ c ∈ cs, c = '\'' ∨ isLiteralChar c = true ∨ c = '\n') (hrest : ∀ c ∈ rest.head?, c ≠ '\'') :
    literalLinesBody (List.replicate before '\'' ++ (cs ++ '\'' :: '\'' :: '\'' :: rest)) =
      .ok (List.replicate before '\'' ++ cs, rest) := by
  -- the quotes met last are kept aside, at most two of them, until it is clear that they close nothing
  induction cs generalizing before longest with
  | nil =>
    rw [List.append_nil]
    exact literalLinesBody_keepsQuotes.closing hbefore hrest
  | cons c cs ih =>
    obtain ⟨hc, hcs⟩ := List.forall_mem_cons.1 hcs
    rw [longestRun.go] at hrun
    by_cases hquote : c = '\''
    · rw [if_pos hquote] at hrun
      have hle := le_longestRun_go '\'' (max longest (before + 1)) (before + 1) cs
      have hbefore : before + 1 ≤ 2 := by omega
      have hmore := ih hbefore hrun hcs
      rw [List.replicate_succ', List.append_assoc, List.append_assoc] at hmore
      rwa [hquote]
    · rw [if_neg hquote] at hrun
      have hc := hc.resolve_left hquote
      exact literalLinesBody_keepsQuotes.before hbefore hc
        (literalLinesBody_cons hc (ih (Nat.zero_le 2) hrun hcs))

/-! ### Any string -/

/-- The end of a line behind the opening quotes is no part of a string. -/
private theorem withoutFirstNewline_opening (h : '\n' ∉ cs → behindNewline? text = none) :
    withoutFirstNewline (opening cs ++ text) = text := by
  unfold opening
  split
  · rfl
  · next hline => rw [List.nil_append, withoutFirstNewline, h (by simpa using hline), Option.getD_none]

/-- Between single quotes there stand only characters that need no escape. -/
private theorem isLiteralChar_of_isControl (hcontrol : cs.any isControl = false) (hc : c ∈ cs) :
    c = '\'' ∨ isLiteralChar c = true ∨ c = '\n' := by
  by_cases hquote : c = '\''
  · exact .inl hquote
  by_cases hline : c = '\n'
  · exact .inr (.inr hline)
  have hnone : isControl c = false := by simpa using List.any_eq_false.1 hcontrol c hc
  exact .inr (.inl (isLiteralChar_iff.2 ⟨isVisible_of_not_isControl hnone hline, hquote⟩))

/-- What is written in single quotes on one line has neither quotes nor ends of lines. -/
private theorem of_eq_literal (h : Style.of cs = .literal) : ∀ c ∈ cs, isLiteralChar c = true := by
  have hfacts : cs.any isControl = false ∧ longestRun '\'' cs = 0 ∧ '\n' ∉ cs := by
    unfold Style.of at h
    dsimp only at h
    split at h
    · cases h
    split at h
    · next hlit => simpa [and_assoc] using hlit
    repeat' split at h
    all_goals cases h
  obtain ⟨hcontrol, hrun, hline⟩ := hfacts
  intro c hc
  rcases isLiteralChar_of_isControl hcontrol hc with rfl | hliteral | rfl
  · exact absurd hc (not_mem_of_longestRun_go hrun)
  · exact hliteral
  · exact absurd hc hline

/-- What is written in three single quotes has no more than two of them in a row. -/
private theorem of_eq_literalLines (h : Style.of cs = .literalLines) :
    cs.any isControl = false ∧ longestRun '\'' cs ≤ 2 := by
  unfold Style.of at h
  dsimp only at h
  split at h
  · cases h
  split at h
  · cases h
  split at h
  · cases h
  split at h
  · next hlit => simpa using hlit
  split at h <;> cases h

theorem behindNewline?_cons (hline : c ≠ '\n') (hreturn : c ≠ '\r') :
    behindNewline? (c :: text) = none := by
  unfold behindNewline?
  split
  · next h => exact absurd (List.cons.inj h).1 hline
  · next h => exact absurd (List.cons.inj h).1 hreturn
  · rfl

/-- What stands in double quotes starts with no end of a line, unless the string does. -/
private theorem behindNewline?_escaped (h : '\n' ∉ cs) :
    behindNewline? (escaped 2 0 cs ++ '"' :: text) = none := by
  cases cs with
  | nil => rfl
  | cons c cs =>
    by_cases hquote : c = '"'
    · subst hquote
      rw [escaped, if_pos (by decide)]
      rfl
    have hline : c ≠ '\n' := fun hc => h (hc ▸ List.mem_cons_self)
    rw [escaped_cons hquote hline, List.append_assoc]
    -- whatever a character is shown as does not begin with the end of a line
    rcases shown_cases hquote hline with ⟨x, hx, -⟩ | ⟨a, b, d, e, hcode, -⟩ | ⟨hx, hbasic⟩
    · rw [hx]
      exact behindNewline?_cons (by decide) (by decide)
    · rw [hcode]
      exact behindNewline?_cons (by decide) (by decide)
    · rw [hx]
      refine behindNewline?_cons hline ?_
      rintro rfl
      exact absurd hbasic (by decide)

/-- Escapes put no double quote first where none may stand without a backslash. -/
private theorem head?_escaped (cs : List Char) : ∀ c ∈ (escaped 0 0 cs).head?, c ≠ '"' := by
  cases cs with
  | nil => exact nofun
  | cons c cs =>
    by_cases hquote : c = '"'
    · subst hquote
      rw [escaped, if_neg (Nat.lt_irrefl 0)]
      simp
    by_cases hline : c = '\n'
    · subst hline
      rw [escaped, if_pos rfl]
      simp
    obtain ⟨x, t, hx, hne⟩ := exists_shown hquote hline
    rw [escaped_cons hquote hline, hx]
    simpa using hne

/-- A string in quotes on one line, which are not the first of three. -/
private theorem string_of_line {q : Char} (h : ∀ t, text ≠ q :: q :: t) :
    string (q :: text) = lineString (q :: text) := by
  unfold string
  split
  · next heq => exact absurd (List.cons.inj heq).2 ((List.cons.inj heq).1 ▸ h _)
  · next heq => exact absurd (List.cons.inj heq).2 ((List.cons.inj heq).1 ▸ h _)
  · rfl

/-- A string with escapes on one line. -/
private theorem string_basic (cs : List Char) (hrest : ∀ c ∈ rest.head?, c ≠ '"') :
    string ('"' :: (escaped 0 0 cs ++ '"' :: rest)) = .ok (String.ofList cs, rest) := by
  -- the quotes of an empty string are not the first two of three
  have hne (t : List Char) : escaped 0 0 cs ++ '"' :: rest ≠ '"' :: '"' :: t := by
    intro h
    cases hescaped : escaped 0 0 cs with
    | nil =>
      rw [hescaped] at h
      refine hrest '"' ?_ rfl
      rw [(List.cons.inj h).2]
      rfl
    | cons c t' =>
      rw [hescaped] at h
      exact head?_escaped cs c (by rw [hescaped]; rfl) (List.cons.inj h).1
  rw [string_of_line hne]
  change (basicBody _ >>= _) = _
  rw [basicBody_escaped]
  rfl

/-- A string without escapes on one line. -/
private theorem string_literal (hcs : ∀ c ∈ cs, isLiteralChar c = true)
    (hrest : ∀ c ∈ rest.head?, c ≠ '\'') :
    string ('\'' :: (cs ++ '\'' :: rest)) = .ok (String.ofList cs, rest) := by
  -- two quotes would open a text of several lines
  have hne (t : List Char) : cs ++ '\'' :: rest ≠ '\'' :: '\'' :: t := by
    intro h
    cases cs with
    | nil =>
      refine hrest '\'' ?_ rfl
      rw [(List.cons.inj h).2]
      rfl
    | cons c cs =>
      exact (isLiteralChar_iff.1 (hcs c List.mem_cons_self)).2 (List.cons.inj h).1
  rw [string_of_line hne]
  change (literalBody _ >>= _) = _
  rw [literalBody_append hcs]
  rfl

/-- A string with escapes on several lines. -/
private theorem string_basicLines (cs : List Char) (hrest : ∀ c ∈ rest.head?, c ≠ '"') :
    string ('"' :: '"' :: '"' :: (opening cs ++ (escaped 2 0 cs ++ '"' :: '"' :: '"' :: rest))) =
      .ok (String.ofList cs, rest) := by
  have hread := basicLinesBody_escaped (Nat.zero_le 2) cs hrest
  rw [List.replicate_zero, List.nil_append] at hread
  change (basicLinesBody false (withoutFirstNewline _) >>= _) = _
  rw [withoutFirstNewline_opening behindNewline?_escaped, hread]
  rfl

/-- A string without escapes on several lines. -/
private theorem string_literalLines (hcontrol : cs.any isControl = false) (hrun : longestRun '\'' cs ≤ 2)
    (hrest : ∀ c ∈ rest.head?, c ≠ '\'') :
    string ('\'' :: '\'' :: '\'' :: (opening cs ++ (cs ++ '\'' :: '\'' :: '\'' :: rest))) =
      .ok (String.ofList cs, rest) := by
  -- the first end of a line is left out of the text, so one is written only where the text needs it
  have hfirst (h : '\n' ∉ cs) : behindNewline? (cs ++ '\'' :: '\'' :: '\'' :: rest) = none := by
    cases cs with
    | nil => rfl
    | cons c cs =>
      refine behindNewline?_cons (fun hc => h (hc ▸ List.mem_cons_self)) ?_
      rintro rfl
      exact absurd (List.any_eq_false.1 hcontrol _ List.mem_cons_self) (by decide)
  have hread := literalLinesBody_append (Nat.zero_le 2) hrun
    (fun c hc => isLiteralChar_of_isControl hcontrol hc) hrest
  rw [List.replicate_zero, List.nil_append] at hread
  change (literalLinesBody (withoutFirstNewline _) >>= _) = _
  rw [withoutFirstNewline_opening hfirst, hread]
  rfl

/-- **A string is read as it has been written.** -/
theorem string_quotedChars (cs : List Char) (hrest : ∀ c ∈ rest.head?, c ≠ '"' ∧ c ≠ '\'') :
    string (quotedChars cs ++ rest) = .ok (String.ofList cs, rest) := by
  have hdouble : ∀ c ∈ rest.head?, c ≠ '"' := fun c hc => (hrest c hc).1
  have hsingle : ∀ c ∈ rest.head?, c ≠ '\'' := fun c hc => (hrest c hc).2
  unfold quotedChars
  cases hstyle : Style.of cs with
  | basic => simpa using string_basic cs hdouble
  | literal => simpa using string_literal (of_eq_literal hstyle) hsingle
  | basicLines => simpa using string_basicLines cs hdouble
  | literalLines =>
    obtain ⟨hcontrol, hrun⟩ := of_eq_literalLines hstyle
    simpa using string_literalLines hcontrol hrun hsingle

end EnvSchema.Data.Toml
