import EnvSchema.Proofs.Script.Passing
import EnvSchema.Script.Reader.Cursor

/-!
# Texts that spell tokens

How a character is cut into tokens hangs on what stands around it. For a few tokens it does not:
words, brackets, braces, colons, dots and quoted texts are cut the same way wherever an expression
may stand.

* `Spelt`, `Spells` — such a token is spelt by some characters, and a text spells such tokens;
* `Reader.Ready` — nothing is open in which a text is cut in another way;
* `Read.lexeme_spells`, `Read.lexeme_end` — the next token of such a text is cut off, or there is
  none.

A character that may start a word has to be no blank, for otherwise it would be passed over before a
word could be read.
-/

namespace EnvSchema.Script

/-- **A word**: its characters may stand in one, and the first one may start it. -/
def IsWord (w : String) : Prop :=
  (∀ c ∈ w.toList, Text.isIdentPart c = true) ∧ ∃ c cs, w.toList = c :: cs ∧ Text.isIdentStart c = true

/-- The marks that are one character and start no longer mark. -/
def singleMarks : List Char := ['(', ')', '\x7b', '\x7d', ':']

/-- **A token is spelt by some characters** if some others follow them. -/
inductive Spelt : Token → List Char → List Char → Prop
  | mark {c : Char} {cs : List Char} (hc : c ∈ singleMarks) :
      Spelt (.mark (String.ofList [c])) [c] cs
  | dot {c : Char} {cs : List Char} (hc : Text.isIdentStart c = true) :
      Spelt (.mark ".") ['.'] (c :: cs)
  | word {w : String} {cs : List Char} (hw : IsWord w)
      (hc : ∀ c ∈ cs.head?, Read.endsWord c = true) : Spelt (.word w) w.toList cs
  | quoted (s : String) {cs : List Char} :
      Spelt (.string s (Text.quoted s)) (Text.quoted s).toList cs

/-- **A text spells tokens**, one after the other with blanks before them. -/
inductive Spells : List Char → List Token → Prop
  | nil : Spells [] []
  | cons {t : Token} {ts : List Token} {u v cs : List Char} (hu : ∀ c ∈ u, c = ' ')
      (ht : Spelt t v cs) (h : Spells cs ts) : Spells (u ++ (v ++ cs)) (t :: ts)

/-! ### What a token starts with -/

/-- Whether a character is passed over before a token. -/
def isPassedOver (c : Char) : Bool := isBlank c || isLineEnd c

/-- The characters that are passed over. -/
private def passedOver : List Char :=
  [' ', '\t', '\x0b', '\x0c', '\u00a0', '\ufeff', '\u1680', '\u2000', '\u2001', '\u2002', '\u2003',
    '\u2004', '\u2005', '\u2006', '\u2007', '\u2008', '\u2009', '\u200a', '\u202f', '\u205f', '\u3000',
    '\n', '\r', '\u2028', '\u2029']

/-- They are all of them. -/
private theorem mem_passedOver {c : Char} (h : isPassedOver c = true) : c ∈ passedOver := by
  by_cases hrange : '\u2000' ≤ c ∧ c ≤ '\u200a'
  · have hall : ∀ n ∈ List.range' 0x2000 11, Char.ofNat n ∈ passedOver := by decide
    have hlow : 0x2000 ≤ c.toNat := hrange.1
    have hhigh : c.toNat ≤ 0x200a := hrange.2
    have hc := hall c.toNat (by rw [List.mem_range'_1]; omega)
    rwa [Char.ofNat_toNat] at hc
  · have hnot : (decide ('\u2000' ≤ c) && decide (c ≤ '\u200a')) = false := by simpa using hrange
    simp only [isPassedOver, isBlank, isLineEnd, hnot, Bool.or_false, Bool.or_eq_true,
      beq_iff_eq] at h
    simp only [passedOver, List.mem_cons]
    grind

/-- **What may start a word is not passed over.** -/
theorem not_isPassedOver_of_isIdentStart {c : Char} (h : Text.isIdentStart c = true) :
    isPassedOver c = false := by
  -- there are few of them, and none may start a word
  have hall : passedOver.all (fun d => !Text.isIdentStart d) = true := by decide +kernel
  cases hp : isPassedOver c with
  | false => rfl
  | true =>
    have hnot := List.all_eq_true.1 hall c (mem_passedOver hp)
    rw [h] at hnot
    exact nomatch hnot

/-- What may start a word is no digit. -/
private theorem not_isDigit_of_isIdentStart {c : Char} (h : Text.isIdentStart c = true) :
    c.isDigit = false := by
  have hall : ∀ n ∈ List.range' 48 10, Text.isIdentStart (Char.ofNat n) = false := by decide
  cases hd : c.isDigit with
  | false => rfl
  | true =>
    simp only [Char.isDigit, Bool.and_eq_true, decide_eq_true_eq] at hd
    have hlow : 48 ≤ c.toNat := hd.1
    have hhigh : c.toNat ≤ 57 := hd.2
    have hc := hall c.toNat (by rw [List.mem_range'_1]; omega)
    rw [Char.ofNat_toNat] at hc
    exact absurd (h.symm.trans hc) (by decide)

/-- What a token starts with is not passed over, and it starts no comment and no first line that
names an interpreter. -/
theorem Spelt.head {t : Token} {v cs : List Char} (h : Spelt t v cs) :
    ∃ c w, v = c :: w ∧ isPassedOver c = false ∧ c ≠ '/' ∧ c ≠ '#' := by
  cases h with
  | @mark c _ hc =>
    -- the marks are tried one by one
    have hall : singleMarks.all (fun d => decide (isPassedOver d = false ∧ d ≠ '/' ∧ d ≠ '#')) = true :=
      by decide
    exact ⟨c, [], rfl, of_decide_eq_true (List.all_eq_true.1 hall c hc)⟩
  | dot hc => exact ⟨'.', [], rfl, by decide, by decide, by decide⟩
  | word hw hc =>
    obtain ⟨-, c, w, htext, hstart⟩ := hw
    refine ⟨c, w, htext, not_isPassedOver_of_isIdentStart hstart, ?_, ?_⟩
    · rintro rfl
      exact absurd hstart (by decide)
    · rintro rfl
      exact absurd hstart (by decide)
  | quoted s =>
    refine ⟨'"', s.toList.flatMap Text.escaped ++ ['"'], ?_, by decide, by decide, by decide⟩
    simp [Text.quoted]

namespace Read

variable {r : Reader} {t : Token} {ts : List Token} {u v cs : List Char}

/-! ### Before a token -/

theorem ahead_apply (s : String) : ahead s r = .ok (s.toList.isPrefixOf r.rest) r := rfl

/-- Blanks are passed over, where no comment follows them. -/
theorem skipBlanks_past (h : r.rest = u ++ cs) (hu : ∀ c ∈ u, c = ' ')
    (hc : ∀ c ∈ cs.head?, isPassedOver c = false ∧ c ≠ '/') :
    skipBlanks r = .ok () (r.past u cs) := by
  have hplain : skipPlain r = .ok () (r.past u cs) := by
    refine Answers.eq (.bind_eq (takeWhile_past h ?_ fun c hcs => (hc c hcs).1) ?_)
    · intro c hcu
      rw [hu c hcu]
      rfl
    · have hends : u.any isLineEnd = false := by
        rw [List.any_eq_false]
        intro c hcu
        rw [hu c hcu]
        decide
      rw [hends]
      exact .pure ⟨rfl, rfl⟩
  -- what follows does not start with a slash, so there is no comment
  have hcomment (d : Char) : ['/', d].isPrefixOf cs = false := by
    cases cs with
    | nil => rfl
    | cons c cs =>
      have hne : ('/' == c) = false := beq_eq_false_iff_ne.2 (hc c rfl).2.symm
      simp [List.isPrefixOf, hne]
  refine Answers.eq (.bind_eq rfl ?_)
  rw [skipBlanksUpTo]
  refine .bind_eq hplain (.bind_eq (ahead_apply "//") ?_)
  change Answers (if ['/', '/'].isPrefixOf cs = true then _ else _) _ _
  rw [hcomment, if_neg (by decide)]
  refine .bind_eq (ahead_apply "/*") ?_
  change Answers (if ['/', '*'].isPrefixOf cs = true then _ else _) _ _
  rw [hcomment, if_neg (by decide)]
  exact .pure ⟨rfl, rfl⟩

/-! ### Tokens -/

/-- A word that is ahead is read. -/
private theorem markToken_word {w : String} (hw : IsWord w) (hc : ∀ c ∈ cs.head?, endsWord c = true)
    (h : r.rest = w.toList ++ cs) : markToken r = .ok (some (.word w)) (r.past w.toList cs) := by
  obtain ⟨hpart, c, ds, htext, hstart⟩ := hw
  have hrest : r.rest = c :: (ds ++ cs) := by rw [h, htext, List.cons_append]
  refine Answers.eq (.bind_eq rfl ?_)
  rw [plainToken]
  refine .bind_eq rfl ?_
  rw [hrest]
  dsimp only
  rw [hstart, Bool.true_or, if_pos rfl]
  refine .bind_eq (word_past h hpart hc) (.pure ⟨?_, rfl⟩)
  rw [String.ofList_toList]

/-- A quoted text that is ahead is read. -/
private theorem markToken_quoted {s : String} (hsize : r.rest.length ≤ r.size)
    (h : r.rest = (Text.quoted s).toList ++ cs) :
    markToken r = .ok (some (.string s (Text.quoted s))) (r.past (Text.quoted s).toList cs) := by
  obtain ⟨w, hw⟩ : ∃ w, r.rest = '"' :: w := ⟨_, by rw [h]; simp [Text.quoted]; rfl⟩
  -- the reader has enough turns for all characters of the text
  have hlength : s.toList.length < r.size + 8 := by
    have hle := length_le_quoted s
    rw [h, List.length_append] at hsize
    omega
  refine Answers.eq (.bind_eq rfl ?_)
  rw [plainToken]
  refine .bind_eq rfl ?_
  rw [hw]
  dsimp only
  rw [if_neg (by decide), if_neg (by decide), if_pos (by decide)]
  exact .bind_eq (quoted_past hlength h) (.pure ⟨rfl, rfl⟩)

/-- A text does not start with another one whose first character it does not start with. -/
private theorem isPrefixOf_cons_of_ne {c d : Char} {w : List Char} (h : d ≠ c) :
    (d :: w).isPrefixOf (c :: cs) = false := by
  simp [List.isPrefixOf, h]

/-- No merge marker is where the text starts with another character. -/
private theorem atMergeMarker_of_ne {c sign : Char} (hc : sign ≠ c) (h : r.rest = c :: cs) :
    atMergeMarker sign r = .ok false r := by
  have hsigns : (if sign == '=' then List.replicate 7 sign else List.replicate 7 sign ++ [' ']).isPrefixOf
      r.rest = false := by
    rw [h]
    split <;> exact isPrefixOf_cons_of_ne hc
  change EStateM.Result.ok (r.lineBreak && _) r = _
  rw [hsigns, Bool.and_false]

/-- The characters of marks that start nothing else. -/
private def markStarts : List Char := '.' :: singleMarks

/-- A mark of one character is read if no longer one is ahead. -/
private theorem markToken_single {c : Char} (hc : c ∈ markStarts)
    (hafter : c = '.' → ∀ d ∈ cs.head?, d.isDigit = false) (h : r.rest = c :: cs)
    (hfind : (marks.find? fun m => m.toList.isPrefixOf (c :: cs)) = some (String.ofList [c])) :
    markToken r = .ok (some (.mark (String.ofList [c]))) (r.past [c] cs) := by
  have hall : markStarts.all (fun d => decide ((Text.isIdentStart d || d == '\\') = false ∧
      d.isDigit = false ∧ (d == '"' || d == '\x27') = false ∧ (d == '<' || d == '>') = false ∧
      '<' ≠ d ∧ '-' ≠ d ∧ '=' ≠ d ∧ '>' ≠ d ∧ '|' ≠ d)) = true := by decide
  obtain ⟨hword, hdigit, hquote, hangle, hlt, hminus, heq, hgt, hbar⟩ :=
    of_decide_eq_true (List.all_eq_true.1 hall c hc)
  -- a dot might start a number
  have hdot : (c == '.' && (r.rest.tail.head?.map Char.isDigit).getD false) = false := by
    rw [h, List.tail_cons]
    by_cases hpoint : c = '.'
    · cases cs with
      | nil => simp
      | cons d cs => simp [hafter hpoint d rfl]
    · simp [hpoint]
  have hnone (d : Char) (hd : d ≠ c) (s : String) (hs : s.toList.head? = some d) :
      s.toList.isPrefixOf r.rest = false := by
    obtain ⟨w, hw⟩ := List.head?_eq_some_iff.1 hs
    rw [h, hw]
    exact isPrefixOf_cons_of_ne hd
  refine Answers.eq (.bind_eq rfl ?_)
  rw [plainToken]
  refine .bind_eq rfl ?_
  rw [h]
  dsimp only
  rw [hword, if_neg (by decide), hdigit, if_neg (by decide), hquote, if_neg (by decide)]
  refine .bind_eq (a := r.rest.tail.head?) rfl ?_
  rw [hdot, if_neg (by decide), hangle, Bool.false_and, Bool.false_and, Bool.false_and,
    if_neg (by decide)]
  refine .bind_eq (ahead_apply "<!--") ?_
  rw [hnone '<' hlt "<!--" rfl, if_neg (by decide)]
  refine .bind_eq (ahead_apply "-->") ?_
  rw [hnone '-' hminus "-->" rfl, Bool.and_false, if_neg (by decide)]
  refine .bind_eq (atMergeMarker_of_ne heq h) ?_
  rw [if_neg (by decide)]
  refine .bind_eq (atMergeMarker_of_ne hlt h) (.bind_eq (atMergeMarker_of_ne hgt h)
    (.bind_eq (atMergeMarker_of_ne hbar h) ?_))
  rw [if_neg (by decide), hfind]
  have hskip : skip (String.ofList [c]).length r = .ok () (r.past [c] cs) := by
    rw [String.length_ofList]
    exact skip_past h
  have hmark : mark (String.ofList [c]) r = .ok (.mark (String.ofList [c])) (r.past [c] cs) :=
    Answers.eq (.bind_eq hskip (.pure ⟨rfl, rfl⟩))
  exact .bind_eq hmark (.pure ⟨rfl, rfl⟩)

/-- A mark that is ahead is read. -/
private theorem markToken_mark {c : Char} (hc : c ∈ singleMarks)
    (h : r.rest = c :: cs) :
    markToken r = .ok (some (.mark (String.ofList [c]))) (r.past [c] cs) := by
  refine markToken_single (.tail _ hc) ?_ h ?_
  · rintro rfl
    exact absurd hc (by decide)
  · simp only [singleMarks, List.mem_cons, List.not_mem_nil, or_false] at hc
    rcases hc with rfl | rfl | rfl | rfl | rfl <;> rfl

/-- A dot that is ahead of a word is read. -/
private theorem markToken_dot {c : Char} (hc : Text.isIdentStart c = true)
    (h : r.rest = '.' :: c :: cs) :
    markToken r = .ok (some (.mark ".")) (r.past ['.'] (c :: cs)) := by
  have hpoint : c ≠ '.' := by
    rintro rfl
    exact absurd hc (by decide)
  refine markToken_single (c := '.') (by decide) ?_ h ?_
  · rintro - _ ⟨⟩
    exact not_isDigit_of_isIdentStart hc
  · -- the mark of three dots would need another one here
    have hlong : ("...".toList.isPrefixOf ('.' :: c :: cs)) = false := by
      change (['.', '.', '.'].isPrefixOf ('.' :: c :: cs)) = false
      simp [List.isPrefixOf, hpoint.symm]
    change List.find? _ (">>>=" :: "..." :: marks.drop 2) = _
    rw [List.find?_cons_of_neg Bool.false_ne_true, List.find?_cons_of_neg (by rw [hlong]; decide)]
    rfl

/-- **A token that is spelt by the characters ahead** is read from them. -/
theorem markToken_past (hsize : r.rest.length ≤ r.size)
    (h : r.rest = v ++ cs) (ht : Spelt t v cs) : markToken r = .ok (some t) (r.past v cs) := by
  cases ht with
  | mark hc => exact markToken_mark hc h
  | dot hc => exact markToken_dot hc h
  | word hw hc => exact markToken_word hw hc h
  | quoted s => exact markToken_quoted hsize h

end Read

/-! ### The next token -/

/-- Whether a mode is one in which a text is cut in the usual way. -/
def Mode.isPlain : Mode → Bool
  | .braceStatement | .braceExpr | .parenStatement _ | .parenExpr | .functionExpr | .classExpr => true
  | _ => false

/-- **The next token is cut in the usual way**, whatever it is. -/
structure Reader.Ready (r : Reader) : Prop where
  dialect : r.dialect = .module
  regexpAt : r.regexpAt = none
  modes : ∀ m ∈ r.modes, m.isPlain = true
  size : r.rest.length ≤ r.size

/-- **A state with the tokens that are held and the place in the grammar of another one.** -/
structure Reader.Alike (r r' : Reader) : Prop where
  context : r'.context = r.context
  current : r'.current = r.current
  next : r'.next = r.next

namespace Reader.Ready

variable {r : Reader} (hr : r.Ready)
include hr

/-- The innermost mode does not keep blanks, and it is no template. -/
theorem head : ((r.modes.head?.map Mode.keepsBlanks).getD false) = false ∧
    (r.modes.head? == some .template) = false := by
  cases hm : r.modes with
  | nil => exact ⟨rfl, rfl⟩
  | cons m ms =>
    have hplain := hr.modes m (by rw [hm]; exact .head _)
    cases m <;> first | exact ⟨rfl, rfl⟩ | exact absurd hplain (by decide)

/-- Where no elements are known, no token is one of an element. -/
theorem elementToken? : Read.elementToken? r = .ok none r := by
  refine Answers.eq (.bind_eq rfl ?_)
  rw [hr.dialect]
  exact .pure ⟨rfl, rfl⟩

end Reader.Ready

namespace Read

variable {r : Reader} {t : Token} {ts : List Token}

/-- The token ahead of a text that spells it, if there are no blanks before it. -/
private theorem tokenHere_past {v cs : List Char} (hr : r.Ready) (h : r.rest = v ++ cs)
    (ht : Spelt t v cs) : tokenHere r = .ok (some t) (r.past v cs) := by
  have hsome : r.rest.isEmpty = false := by
    obtain ⟨c, w, rfl, -⟩ := ht.head
    rw [h]
    rfl
  refine Answers.eq (.bind_eq rfl ?_)
  rw [hsome, if_neg (by decide)]
  refine .bind_eq hr.elementToken? (.bind_eq rfl ?_)
  rw [hr.head.2, if_neg (by decide)]
  exact ⟨_, _, markToken_past hr.size h ht, rfl, rfl⟩

/-- Behind blanks the token is read where they end. -/
private theorem tokenBehindBlanks_past {u w : List Char} {post : Option Token → Reader → Prop}
    (hr : r.Ready) (h : r.rest = u ++ w) (hu : ∀ c ∈ u, c = ' ')
    (hw : ∀ c ∈ w.head?, isPassedOver c = false ∧ c ≠ '/')
    (hn : ∀ r', r'.Ready → r'.rest = w → r.Alike r' → Answers tokenHere r' post) :
    Answers tokenBehindBlanks r post := by
  refine .bind_eq rfl (.bind_eq rfl ?_)
  change Answers (if (!((r.modes.head?.map Mode.keepsBlanks).getD false)) = true then _ else _) _ _
  rw [hr.head.1, if_pos (by decide)]
  refine .bind_eq (skipBlanks_past (u := u) h hu hw) (.bind_eq rfl ?_)
  refine hn _ ⟨hr.dialect, hr.regexpAt, hr.modes, ?_⟩ rfl ⟨rfl, rfl, rfl⟩
  have hsize := hr.size
  rw [h, List.length_append] at hsize
  change w.length ≤ r.size
  omega

/-- No interpreter is named where the text starts with another character than a hash. -/
private theorem hashbang?_none (h : r.rest.head? ≠ some '#') : hashbang? r = .ok none r := by
  have hnone : "#!".toList.isPrefixOf r.rest = false := by
    cases hrest : r.rest with
    | nil => rfl
    | cons c cs =>
      rw [hrest] at h
      exact isPrefixOf_cons_of_ne fun hc => h (congrArg some hc.symm)
  refine Answers.eq (.bind_eq (ahead_apply "#!") ?_)
  rw [hnone, if_neg (by decide)]
  exact .pure ⟨rfl, rfl⟩

/-- **The token ahead** is read where the blanks before it end. -/
private theorem nextToken_past {u w : List Char} {post : Option Token → Reader → Prop} (hr : r.Ready)
    (h : r.rest = u ++ w) (hu : ∀ c ∈ u, c = ' ')
    (hw : ∀ c ∈ w.head?, isPassedOver c = false ∧ c ≠ '/' ∧ c ≠ '#')
    (hn : ∀ r', r'.Ready → r'.rest = w → r.Alike r' → Answers tokenHere r' post) :
    Answers nextToken r post := by
  have hstart : r.rest.head? ≠ some '#' := by
    rw [h]
    cases u with
    | nil => exact fun hc => (hw _ hc).2.2 rfl
    | cons c u =>
      rw [hu c (.head _)]
      simp
  have hr₁ : Reader.Ready { r with tokenStart := r.pos } := ⟨hr.dialect, hr.regexpAt, hr.modes, hr.size⟩
  have hset : (set { r with tokenStart := r.pos } : Read PUnit) r =
      .ok () { r with tokenStart := r.pos } := rfl
  have hstart₁ : ({ r with tokenStart := r.pos } : Reader).rest.head? ≠ some '#' := hstart
  have hbehind : Answers tokenBehindBlanks { r with tokenStart := r.pos } post :=
    tokenBehindBlanks_past hr₁ h hu (fun c hc => ⟨(hw c hc).1, (hw c hc).2.1⟩)
      fun r' hr' hrest ha => hn r' hr' hrest ⟨ha.context, ha.current, ha.next⟩
  refine .bind_eq rfl (.bind_eq hset ?_)
  -- what has been asked of the state is known of the other one, so that it need not be looked into
  generalize ({ r with tokenStart := r.pos } : Reader) = r₁ at hstart₁ hbehind ⊢
  rw [hr.regexpAt]
  dsimp only
  -- at the start of the text an interpreter might be named
  split
  · exact .bind_eq (hashbang?_none hstart₁) hbehind
  · exact hbehind

/-- The next token of a text that spells it. -/
theorem nextToken_spells (hr : r.Ready) (h : Spells r.rest (t :: ts)) :
    Answers nextToken r fun t' r' => t' = some t ∧ r'.Ready ∧ Spells r'.rest ts ∧ r.Alike r' := by
  generalize hrest : r.rest = text at h
  cases h with
  | @cons _ _ u v cs hu ht h =>
    refine nextToken_past hr hrest hu ?_ ?_
    · obtain ⟨c, w, rfl, hc⟩ := ht.head
      rintro _ ⟨⟩
      exact hc
    · intro r' hr' hrest' ha
      refine ⟨_, _, tokenHere_past hr' hrest' ht, rfl, ⟨hr'.dialect, hr'.regexpAt, hr'.modes, ?_⟩, h,
        ⟨ha.context, ha.current, ha.next⟩⟩
      have hsize := hr'.size
      rw [hrest', List.length_append] at hsize
      change cs.length ≤ r'.size
      omega

/-- There is no token at the end. -/
theorem nextToken_end (hr : r.Ready) (h : r.rest = []) :
    Answers nextToken r fun t' r' => t' = none ∧ r'.Ready ∧ r'.rest = [] ∧ r.Alike r' := by
  refine nextToken_past (u := []) (w := []) hr h (by simp) (by simp) ?_
  intro r' hr' hrest' ha
  refine .bind_eq rfl ?_
  rw [hrest', List.isEmpty_nil, if_pos rfl]
  refine .bind_eq rfl (.pure ⟨rfl, ⟨hr'.dialect, hr'.regexpAt, hr'.modes, ?_⟩, ?_, ?_⟩)
  · exact hr'.size
  · exact hrest'
  · exact ⟨ha.context, ha.current, ha.next⟩

end Read

/-- Closing a bracket leaves the other ones open. -/
private theorem Mode.afterClose_plain {modes : List Mode} (hm : ∀ m ∈ modes, m.isPlain = true) :
    ∀ m ∈ (afterClose modes).1, m.isPlain = true := by
  unfold afterClose
  -- what is closed is the innermost one, and with it perhaps the one around it
  split
  · next closed rest =>
    have hrest : ∀ m ∈ rest, m.isPlain = true := fun m h => hm m (.tail _ h)
    split
    · intro m h
      rw [List.mem_singleton.1 h]
      exact hm closed (.head _)
    · split
      · exact fun m h => hrest m (.tail _ h)
      · exact fun m h => hrest m (.tail _ h)
      · exact hrest
      · exact hrest
      · exact hrest
  · exact hm

/-- The marks that are spelt. -/
private theorem Spelt.mem_of_mark {m : String} {v cs : List Char} (ht : Spelt (.mark m) v cs) :
    m ∈ [".", "(", ")", "\x7b", "\x7d", ":"] := by
  generalize hm : Token.mark m = t at ht
  cases ht with
  | @mark c _ hc =>
    obtain rfl := Token.mark.inj hm
    -- the marks of one character are among them
    have hall : singleMarks.all (fun d => [".", "(", ")", "\x7b", "\x7d", ":"].contains
        (String.ofList [d])) = true := by decide
    exact List.contains_iff_mem.1 (List.all_eq_true.1 hall c hc)
  | dot hc =>
    obtain rfl := Token.mark.inj hm
    decide
  | word hw hc => exact nomatch hm
  | quoted s => exact nomatch hm

/-- A token that is spelt leaves the brackets plain that are open. -/
private theorem Spelt.afterToken_plain {t : Token} {v cs : List Char} {modes : List Mode}
    {prev : Option TokenClass} {lineBreak lineBreakBefore exprAllowed : Bool} (ht : Spelt t v cs)
    (hm : ∀ m ∈ modes, m.isPlain = true) :
    ∀ m ∈ (Mode.afterToken false modes prev t lineBreak lineBreakBefore exprAllowed).1,
      m.isPlain = true := by
  have hcons (m : Mode) (h : m.isPlain = true) : ∀ n ∈ m :: modes, n.isPlain = true :=
    List.forall_mem_cons.2 ⟨h, hm⟩
  have htail : ∀ n ∈ modes.tail, n.isPlain = true := fun n h => hm n (List.mem_of_mem_tail h)
  have hother {m : String} (ht : Spelt (.mark m) v cs)
      (hno : m ∉ [".", "(", ")", "\x7b", "\x7d", ":"]) : False := hno ht.mem_of_mark
  unfold Mode.afterToken
  dsimp only
  split
  · exact hm
  -- a token that opens or closes something is told apart from the others
  split
  · exact Mode.afterClose_plain hm
  · exact Mode.afterClose_plain hm
  · split
    · exact hcons .functionExpr rfl
    · exact hm
  · split
    · exact hcons .classExpr rfl
    · exact hm
  · split
    · exact htail
    · exact hm
  · rw [Bool.false_and, if_neg (by decide), Bool.false_and, if_neg (by decide)]
    split
    · exact hcons .braceStatement rfl
    · exact hcons .braceExpr rfl
  · exact (hother ht (by decide)).elim
  · exact (hother ht (by decide)).elim
  · split
    · exact hcons (.parenStatement false) rfl
    · exact hcons (.parenStatement false) rfl
    · exact hcons (.parenStatement false) rfl
    · exact hcons (.parenStatement true) rfl
    · exact hcons .parenExpr rfl
  · exact hm
  · exact hm
  · exact (hother ht (by decide)).elim
  · exact nomatch ht
  · exact nomatch ht
  · split
    · exact hm
    · exact hm
  · split
    · exact hm
    · exact hm

namespace Read

variable {r : Reader} {t : Token} {ts : List Token}

/-- **The next token of a text that spells it is cut off**, and the text behind it spells the
others. -/
theorem lexeme_spells (hr : r.Ready) (h : Spells r.rest (t :: ts)) :
    Answers lexeme r fun l r' => (∃ l', l = some l' ∧ l'.token = t) ∧ r'.Ready ∧ Spells r'.rest ts ∧
      r.Alike r' := by
  obtain ⟨v, cs, ht⟩ : ∃ v cs, Spelt t v cs := by
    generalize r.rest = text at h
    cases h with
    | cons hu ht h => exact ⟨_, _, ht⟩
  obtain ⟨_, r₁, hnext, rfl, hr₁, h₁, ha₁⟩ := nextToken_spells hr h
  refine .bind_eq (outcome_of_ok hnext) (.bind_eq rfl (.bind_eq rfl (.bind_eq rfl (.pure ?_))))
  refine ⟨⟨_, rfl, rfl⟩, ⟨hr₁.dialect, hr₁.regexpAt, ?_, hr₁.size⟩, h₁, ?_⟩
  · -- no mode of elements is opened in this dialect
    have hjsx : r₁.dialect.hasJsx = false := by
      rw [hr₁.dialect]
      rfl
    dsimp only
    rw [hjsx]
    exact ht.afterToken_plain hr₁.modes
  · exact ⟨ha₁.context, ha₁.current, ha₁.next⟩

/-- At the end no token is cut off. -/
theorem lexeme_end (hr : r.Ready) (h : r.rest = []) :
    Answers lexeme r fun l r' => l = none ∧ r'.Ready ∧ r'.rest = [] ∧ r.Alike r' := by
  obtain ⟨_, r₁, hnext, rfl, hr₁, h₁, ha₁⟩ := nextToken_end hr h
  exact .bind_eq (outcome_of_ok hnext) (.pure ⟨rfl, hr₁, h₁, ha₁⟩)

end Read

end EnvSchema.Script
