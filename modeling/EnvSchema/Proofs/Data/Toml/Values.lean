import EnvSchema.Data.Toml.Reader.Values
import EnvSchema.Proofs.Data.Toml.Reading
import EnvSchema.Proofs.Data.Toml.Strings
import Mathlib.Data.List.Forall2

/-!
# Keys and values are read as they have been written

A key without dots and quotes is read as its name, and what has been written for a setting as a value
that says the same: a string, or a list of strings. Where in the text the value stands it says as well,
so there are many values that say the same.

* `Item.Says` — what a value says, wherever it is written;
* `key_bare` — keys without dots and quotes;
* `value_quoted`, `value_write` — strings, and all that is written for a setting.
-/

namespace EnvSchema.Data.Toml

open Read

variable {cs rest u : List Char} {n : Nat} {s : String} {l : List String}

/-! ### What values say -/

/-- A value is a string. -/
def Item.IsText (s : String) (item : Item) : Prop := ∃ span, item = .text span s

/-- **What a value says**, wherever it is written. -/
def Item.Says (item : Item) : Setting → Prop
  | .text s => item.IsText s
  | .texts l => ∃ span items, item = .list span items ∧ List.Forall₂ Item.IsText l items

/-! ### Keys -/

/-- **A name that may stand as a key without quotes.** -/
def IsBare (name : String) : Prop := name ≠ "" ∧ ∀ c ∈ name.toList, isKeyChar c = true

instance (name : String) : Decidable (IsBare name) :=
  decidable_of_iff (name ≠ "" ∧ name.toList.all isKeyChar = true) (by simp [IsBare])

theorem IsBare.exists_cons {name : String} (h : IsBare name) : ∃ c cs, name.toList = c :: cs ∧
    isKeyChar c = true ∧ ∀ d ∈ cs, isKeyChar d = true := by
  obtain ⟨c, cs, hname⟩ := List.exists_cons_of_ne_nil (mt String.toList_eq_nil_iff.1 h.1)
  have hchars := h.2
  rw [hname] at hchars
  exact ⟨c, cs, hname, List.forall_mem_cons.1 hchars⟩

/-- What is no part of a name without quotes. -/
theorem ne_of_isKeyChar {c d : Char} (h : isKeyChar c = true) (hd : isKeyChar d = false) : c ≠ d := by
  rintro rfl
  exact absurd h (by rw [hd]; decide)

theorem isBlank_of_isKeyChar {c : Char} (h : isKeyChar c = true) : isBlank c = false := by
  have hspace := ne_of_isKeyChar h (d := ' ') (by decide)
  have htab := ne_of_isKeyChar h (d := '\t') (by decide)
  simpa [isBlank] using ⟨hspace, htab⟩

/-- A name without quotes is read up to something else. -/
theorem simpleKey_bare {name : String} (h : IsBare name) (hrest : ∀ c ∈ rest.head?, isKeyChar c = false) :
    simpleKey (name.toList ++ rest) =
      .ok (⟨name, (name.toList ++ rest).length, rest.length⟩, rest) := by
  obtain ⟨c, cs, hname, hc, hcs⟩ := h.exists_cons
  -- the characters of a key are taken up to the first one that is none
  have htake : (taking isKeyChar) (cs ++ rest) = .ok (cs, rest) := by
    have hnone : rest.takeWhile isKeyChar = [] ∧ rest.dropWhile isKeyChar = rest := by
      cases rest with
      | nil => exact ⟨rfl, rfl⟩
      | cons d rest =>
        have hd := hrest d rfl
        exact ⟨List.takeWhile_cons_of_neg (by simp [hd]), List.dropWhile_cons_of_neg (by simp [hd])⟩
    rw [taking, List.takeWhile_append_of_pos hcs, List.dropWhile_append_of_pos hcs, hnone.1, hnone.2,
      List.append_nil]
  rw [hname, List.cons_append]
  refine bind_ok (spanned_of_ok ((bind_ok peek_apply).trans ?_))
  generalize hhead : (c :: (cs ++ rest)).head? = head
  split
  · exact absurd (Option.some.inj hhead) (ne_of_isKeyChar hc (by decide))
  · exact absurd (Option.some.inj hhead) (ne_of_isKeyChar hc (by decide))
  · refine (bind_ok (oneOf_cons hc)).trans ((bind_ok htake).trans ?_)
    rw [← hname, String.ofList_toList]
    rfl

/-- **A key without dots and quotes** is its name, with no path before it. Blanks behind it are passed
over. -/
theorem key_bare {name : String} (h : IsBare name) (rest : List Char) (hu : ∀ c ∈ u, isBlank c = true)
    (hrest : ∀ c ∈ rest.head?, isKeyChar c = false ∧ isBlank c = false ∧ c ≠ '.') :
    ∃ span, key (name.toList ++ (u ++ rest)) = .ok (([], ⟨name, span⟩), rest) := by
  obtain ⟨c, cs, hname, hc, -⟩ := h.exists_cons
  have hblank : ∀ d ∈ (name.toList ++ (u ++ rest)).head?, isBlank d = false := by
    rw [hname]
    rintro d ⟨⟩
    exact isBlank_of_isKeyChar hc
  have hbehind : ∀ d ∈ (u ++ rest).head?, isKeyChar d = false := by
    cases u with
    | nil => exact fun d hd => (hrest d hd).1
    | cons b u =>
      rintro d ⟨⟩
      rcases isBlank_iff.1 (hu b List.mem_cons_self) with rfl | rfl <;> decide
  -- the key is read with the blanks around it, and no dot follows that would ask for one more
  have hread : (do blanks; let k ← simpleKey; blanks; return k : Read Key) (name.toList ++ (u ++ rest)) =
      .ok (⟨name, _⟩, rest) :=
    (bind_ok (blanks_self hblank)).trans ((bind_ok (simpleKey_bare h hbehind)).trans
      (bind_ok (blanks_append hu fun d hd => (hrest d hd).2.1)))
  have hdot : Declines (char '.') rest := declines_char fun d hd => (hrest d hd).2.2
  exact ⟨_, checked_of_ok (called_of_ok (separated_of_ok hread (many_nil hdot.bind _))) rfl⟩

/-! ### Strings -/

theorem exists_quotedChars (cs : List Char) :
    ∃ q t, quotedChars cs = q :: t ∧ (q = '"' ∨ q = '\'') := by
  unfold quotedChars
  cases Style.of cs with
  | basic => exact ⟨_, _, rfl, .inl rfl⟩
  | literal => exact ⟨_, _, rfl, .inr rfl⟩
  | basicLines => exact ⟨_, _, rfl, .inl rfl⟩
  | literalLines => exact ⟨_, _, rfl, .inr rfl⟩

/-- Whatever may stand in a value, a quote starts a string. -/
private theorem valueWith_quote {list : Read (List Item)} {braces : Read Table} {q : Char}
    (hq : q = '"' ∨ q = '\'') :
    valueWith list braces (q :: cs) = placedItem string .text (q :: cs) := by
  rcases hq with rfl | rfl <;> rfl

/-- **A string** is a value that says it. -/
theorem value_quoted (n : Nat) (s : String) (rest : List Char)
    (hrest : ∀ c ∈ rest.head?, c ≠ '"' ∧ c ≠ '\'') :
    ∃ item, value n ((quoted s).toList ++ rest) = .ok (item, rest) ∧ item.IsText s := by
  obtain ⟨q, t, ht, hq⟩ := exists_quotedChars s.toList
  have hstring := string_quotedChars s.toList hrest
  rw [String.ofList_toList] at hstring
  have hread : placedItem string .text (quotedChars s.toList ++ rest) = .ok (.text _ s, rest) :=
    bind_ok (spanned_of_ok hstring)
  refine ⟨_, Eq.trans ?_ hread, _, rfl⟩
  rw [quoted, String.toList_ofList, ht]
  cases n with
  | zero => exact valueWith_quote hq
  | succ n => exact valueWith_quote hq

/-! ### Lists -/

/-- No value starts with a closing bracket. -/
theorem declines_value (n : Nat) : Declines (value n) (']' :: rest) := by
  cases n <;> exact .bind_of_ok peek_apply declines_stop.wanting.called

/-- One item of a list, with what may stand around it. -/
abbrev slot (n : Nat) : Read Item := do
  gaps
  let item ← value n
  gaps
  return item

/-- What items of a list stand apart with. -/
abbrev IsGap (u : List Char) : Prop := ∀ c ∈ u, isBlank c = true ∨ c = '\n'

/-- What stands behind an item. -/
private theorem stands_of_eq {c : Char} (h : c = ',' ∨ c = ']') :
    (c ≠ '#' ∧ c ≠ '\n' ∧ c ≠ '\r' ∧ isBlank c = false) ∧ c ≠ '"' ∧ c ≠ '\'' := by
  rcases h with rfl | rfl <;> decide

theorem slot_quoted (n : Nat) (s : String) (rest : List Char) (hu : IsGap u)
    (hrest : ∀ c ∈ rest.head?, c = ',' ∨ c = ']') :
    ∃ item, slot n (u ++ ((quoted s).toList ++ rest)) = .ok (item, rest) ∧ item.IsText s := by
  obtain ⟨item, hitem, hsaid⟩ := value_quoted n s rest fun c hc => (stands_of_eq (hrest c hc)).2
  obtain ⟨q, t, ht, hq⟩ := exists_quotedChars s.toList
  have hbefore : gaps (u ++ ((quoted s).toList ++ rest)) = .ok ((), (quoted s).toList ++ rest) := by
    refine gaps_append hu ?_
    rw [quoted, String.toList_ofList, ht]
    rintro c ⟨⟩
    rcases hq with rfl | rfl <;> decide
  have hbehind : gaps rest = .ok ((), rest) :=
    gaps_append (u := []) nofun fun c hc => (stands_of_eq (hrest c hc)).1
  exact ⟨item, (bind_ok hbefore).trans ((bind_ok hitem).trans (bind_ok hbehind)), hsaid⟩

theorem declines_slot (n : Nat) (hu : IsGap u) : Declines (slot n) (u ++ ']' :: rest) := by
  refine .bind_of_ok (gaps_append hu ?_) (declines_value n).bind
  rintro c ⟨⟩
  decide

/-- The lines of a list with several items. -/
def itemLines (l : List String) : List Char :=
  l.flatMap fun s => "    ".toList ++ (quoted s).toList ++ [',', '\n']

private theorem length_le_itemLines (l : List String) : l.length ≤ (itemLines l).length := by
  induction l with
  | nil => exact Nat.le_refl 0
  | cons s l ih =>
    rw [itemLines, List.flatMap_cons, ← itemLines, List.length_cons, List.length_append, List.length_append,
      List.length_cons]
    omega

/-- The items behind the first one, each of them on a line behind a comma. The comma behind the last of
them is not taken. -/
private theorem many_itemLines (n : Nat) (l : List String) (rest : List Char) {count : Nat}
    (hcount : l.length ≤ count) :
    ∃ items, many (do char ','; slot n) count (',' :: '\n' :: (itemLines l ++ ']' :: rest)) =
        .ok (items, ',' :: '\n' :: ']' :: rest) ∧ List.Forall₂ Item.IsText l items := by
  induction l generalizing count with
  | nil =>
    -- behind the last comma there is no item, so the comma is given back
    have hend : Declines (do char ','; slot n) (',' :: '\n' :: ']' :: rest) :=
      .bind_of_ok (char_cons ',') (declines_slot n (u := ['\n']) (by simp [IsGap]))
    exact ⟨[], many_nil hend _, .nil⟩
  | cons s l ih =>
    obtain ⟨count, rfl⟩ : ∃ m, count = m + 1 :=
      Nat.exists_eq_add_one_of_ne_zero (Nat.ne_zero_of_lt hcount)
    obtain ⟨items, hitems, hsaid⟩ := ih (Nat.le_of_succ_le_succ hcount)
    have hgap : IsGap ('\n' :: "    ".toList) := by simp [IsGap, isBlank]
    obtain ⟨item, hitem, htext⟩ :=
      slot_quoted n s (',' :: '\n' :: (itemLines l ++ ']' :: rest)) hgap (by simp)
    have hsplit : ',' :: '\n' :: (itemLines (s :: l) ++ ']' :: rest) =
        ',' :: ('\n' :: "    ".toList ++ ((quoted s).toList ++
          ',' :: '\n' :: (itemLines l ++ ']' :: rest))) := by
      simp [itemLines]
    refine ⟨item :: items, ?_, .cons htext hsaid⟩
    rw [hsplit]
    exact many_cons ((bind_ok (char_cons ',')).trans hitem) hitems

/-- An array, where its items have been read up to a comma, if there is one behind the last of them, and
to the closing bracket. -/
private theorem array_of_separated {items : Option (List Item)} {mid : List Char}
    (hitems : softly (separated (char ',') (slot n)) cs = .ok (items, mid))
    (hcomma : items = none ∧ mid = u ++ ']' :: rest ∨
      items.isSome ∧ ∃ comma, softly (char ',') mid = .ok (comma, u ++ ']' :: rest))
    (hu : IsGap u) : array (value n) ('[' :: cs) = .ok (items.getD [], rest) := by
  have hgaps : gaps (u ++ ']' :: rest) = .ok ((), ']' :: rest) :=
    gaps_append hu (by rintro c ⟨⟩; decide)
  have hclose : called .array (wanting [.sign "]"] (char ']')) (']' :: rest) = .ok ((), rest) :=
    called_of_ok (wanting_of_ok (char_cons ']'))
  refine (bind_ok (char_cons '[')).trans (certain_of_ok ((bind_ok hitems).trans ?_))
  rcases hcomma with ⟨rfl, rfl⟩ | ⟨hsome, comma, hcomma⟩
  · exact (bind_ok hgaps).trans (bind_ok hclose)
  · rw [if_pos hsome]
    exact (bind_ok hcomma).trans ((bind_ok hgaps).trans (bind_ok hclose))

/-- **What has been written for a list** is read as its items. -/
theorem array_write (n : Nat) (l : List String) (rest : List Char) :
    ∃ items, array (value n) ((Setting.texts l).write.toList ++ rest) = .ok (items, rest) ∧
      List.Forall₂ Item.IsText l items := by
  -- a list is written on one line while it has no more than one text, and then on a line for each
  match l with
  | [] =>
    have hnone : Declines (separated (char ',') (slot n)) (']' :: rest) :=
      (declines_slot n (u := []) nofun).bind
    refine ⟨[], ?_, .nil⟩
    exact array_of_separated (u := []) (softly_of_declines hnone) (.inl ⟨rfl, rfl⟩) nofun
  | [s] =>
    obtain ⟨item, hitem, hsaid⟩ := slot_quoted n s (']' :: rest) (u := []) nofun (by simp)
    rw [List.nil_append] at hitem
    have hcomma : Declines (char ',') (']' :: rest) := declines_char (by simp)
    have htext : (Setting.texts [s]).write.toList ++ rest = '[' :: ((quoted s).toList ++ ']' :: rest) := by
      simp [Setting.write]
    refine ⟨[item], ?_, .cons hsaid .nil⟩
    rw [htext]
    exact array_of_separated (u := []) (softly_of_ok (separated_of_ok hitem (many_nil hcomma.bind _)))
      (.inr ⟨rfl, _, softly_of_declines hcomma⟩) nofun
  | s :: s' :: l =>
    obtain ⟨item, hitem, hsaid⟩ := slot_quoted n s (',' :: '\n' :: (itemLines (s' :: l) ++ ']' :: rest))
      (u := '\n' :: "    ".toList) (by simp [IsGap, isBlank]) (by simp)
    have hcount : (s' :: l).length ≤ (',' :: '\n' :: (itemLines (s' :: l) ++ ']' :: rest)).length := by
      have hle := length_le_itemLines (s' :: l)
      simp only [List.length_cons, List.length_append] at hle ⊢
      omega
    obtain ⟨items, hitems, hall⟩ := many_itemLines n (s' :: l) rest hcount
    have htext : (Setting.texts (s :: s' :: l)).write.toList ++ rest =
        '[' :: ('\n' :: "    ".toList ++ ((quoted s).toList ++
          ',' :: '\n' :: (itemLines (s' :: l) ++ ']' :: rest))) := by
      simp [Setting.write, itemLines, String.toList_join, List.flatMap_map]
    refine ⟨item :: items, ?_, .cons hsaid hall⟩
    rw [htext]
    exact array_of_separated (u := ['\n']) (softly_of_ok (separated_of_ok hitem hitems))
      (.inr ⟨rfl, _, softly_of_ok (char_cons ',')⟩) (by simp [IsGap])

/-! ### Settings -/

/-- Whatever may stand in a value, a bracket starts a list. -/
private theorem valueWith_bracket {list : Read (List Item)} {braces : Read Table} :
    valueWith list braces ('[' :: cs) = placedItem list .list ('[' :: cs) :=
  rfl

theorem Setting.exists_write_texts (l : List String) : ∃ t, (Setting.texts l).write.toList = '[' :: t := by
  match l with
  | [] => exact ⟨_, rfl⟩
  | [s] => simp [write]
  | s :: s' :: l => simp [write]

/-- What is written for a setting starts with a quote or a bracket. -/
theorem Setting.exists_write (setting : Setting) :
    ∃ c t, setting.write.toList = c :: t ∧ (c = '"' ∨ c = '\'' ∨ c = '[') := by
  cases setting with
  | text s =>
    obtain ⟨q, t, ht, hq⟩ := exists_quotedChars s.toList
    exact ⟨q, t, (String.toList_ofList).trans ht, hq.imp_right .inl⟩
  | texts l =>
    obtain ⟨t, ht⟩ := exists_write_texts l
    exact ⟨'[', t, ht, .inr (.inr rfl)⟩

/-- **What has been written for a setting** is a value that says it. -/
theorem value_write (n : Nat) (setting : Setting) (rest : List Char)
    (hrest : ∀ c ∈ rest.head?, c ≠ '"' ∧ c ≠ '\'') :
    ∃ item, value (n + 1) (setting.write.toList ++ rest) = .ok (item, rest) ∧ item.Says setting := by
  cases setting with
  | text s => exact value_quoted (n + 1) s rest hrest
  | texts l =>
    obtain ⟨items, hitems, hsaid⟩ := array_write n l rest
    obtain ⟨t, ht⟩ := Setting.exists_write_texts l
    have hread : placedItem (array (value n)) .list ((Setting.texts l).write.toList ++ rest) =
        .ok (.list _ items, rest) :=
      bind_ok (spanned_of_ok hitems)
    refine ⟨_, Eq.trans ?_ hread, _, _, rfl, hsaid⟩
    rw [ht]
    exact valueWith_bracket

end EnvSchema.Data.Toml
