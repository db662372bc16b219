import EnvSchema.Proofs.Script.Fields
import EnvSchema.Schema.Schema

/-!
# The text of a field

The field of a variable is written as a text, and read from that text before it is put into the
schema. Here it is shown that the two belong together: the text of a field spells the tokens of a
field, so it is read as a property with the key that it was written for.

* `callChars`, `spells_calls` — the text of calls one after the other;
* `keyToken_fieldKey` — a key is written as a word if it may be one, and between quotes otherwise;
* `exists_holds_fieldText`, `property_of_fieldText` — **the text of a field holds that field and
  nothing else**, if the library goes by a name;
* `property_of_fieldKey` — this is so whatever the name of the variable is.
-/

namespace EnvSchema

open Script (IsLooseName IsName IsWord KeyToken Module Node Spells Spelt Token callTokens fieldTokens)

/-! ### Calls -/

/-- The text of calls of members, one after the other. -/
def callChars (ws : List String) : List Char := ws.flatMap fun w => '.' :: (w.toList ++ ['(', ')'])

/-- A token with no blanks before it. -/
private theorem Spells.next {t : Token} {ts : List Token} {v cs : List Char} (ht : Spelt t v cs)
    (h : Spells cs ts) : Spells (v ++ cs) (t :: ts) :=
  .cons (u := []) (fun _ hc => nomatch hc) ht h

/-- A token with a blank before it. -/
private theorem Spells.behindBlank {t : Token} {ts : List Token} {v cs : List Char}
    (ht : Spelt t v cs) (h : Spells cs ts) : Spells (' ' :: (v ++ cs)) (t :: ts) :=
  .cons (u := [' ']) (fun _ hc => List.mem_singleton.1 hc) ht h

/-- A mark that no other character goes on with. -/
private theorem Spells.mark {c : Char} {ts : List Token} {cs : List Char} (hc : c ∈ Script.singleMarks)
    (h : Spells cs ts) : Spells (c :: cs) (.mark (String.ofList [c]) :: ts) :=
  Spells.next (.mark hc) h

/-- What no word goes on with ends it. -/
private theorem endsWord_of_head? {cs : List Char} (h : cs.head?.all Script.Read.endsWord = true) :
    ∀ c ∈ cs.head?, Script.Read.endsWord c = true := by
  intro c hc
  rw [hc] at h
  exact h

/-- **The text of calls** spells their tokens. -/
theorem spells_calls {ws : List String} (hw : ∀ w ∈ ws, IsWord w) {cs : List Char} {ts : List Token}
    (h : Spells cs ts) : Spells (callChars ws ++ cs) (callTokens ws ++ ts) := by
  induction ws with
  | nil => exact h
  | cons w ws ih =>
    obtain ⟨hw, hws⟩ := List.forall_mem_cons.1 hw
    have hchars : callChars (w :: ws) ++ cs =
        ['.'] ++ (w.toList ++ '(' :: ')' :: (callChars ws ++ cs)) := by
      simp [callChars]
    rw [hchars]
    -- the calls from the end on: what is behind them has been spelt already
    have hcalls := Spells.mark (c := '(') (by decide) (Spells.mark (c := ')') (by decide) (ih hws))
    have hword := Spells.next (.word hw (endsWord_of_head? rfl)) hcalls
    obtain ⟨-, c, us, htext, hstart⟩ := hw
    rw [htext] at hword ⊢
    exact Spells.next (.dot hstart) hword

/-- The calls that a value of a type is checked with. -/
def FieldType.calls : FieldType → List String
  | text => ["string"]
  | url => ["string", "url"]
  | number => ["number"]
  | boolean => ["boolean"]
  | other => []

/-- **The call that checks a value** is written as calls of the library's members. -/
theorem FieldType.toList_of_expression? {type : FieldType} {space e : String}
    (h : type.expression? space = some e) : e.toList = space.toList ++ callChars type.calls := by
  cases type <;> simp only [expression?, Option.some.injEq, reduceCtorEq] at h <;> subst h <;>
    simp [callChars, calls]

/-! ### Keys -/

/-- What may start a key that needs no quotes may start a word. -/
private theorem isIdentStart_of_startsKey {c : Char} (h : startsKey c = true) :
    Text.isIdentStart c = true := by
  have hcases : c.isAlpha = true ∨ c = '$' ∨ c = '_' := by
    rw [startsKey, Bool.or_eq_true, Bool.or_eq_true, beq_iff_eq, beq_iff_eq] at h
    grind
  -- within ASCII the two tests can be compared character by character
  have hlow : c.toNat < 0x80 := by
    rcases hcases with halpha | rfl | rfl
    · unfold Char.isAlpha Char.isUpper Char.isLower at halpha
      simp only [Bool.or_eq_true, Bool.and_eq_true, decide_eq_true_eq] at halpha
      rcases halpha with ⟨-, hle⟩ | ⟨-, hle⟩
      · exact Nat.lt_of_le_of_lt hle (by decide)
      · exact Nat.lt_of_le_of_lt hle (by decide)
    · decide
    · decide
  rw [Text.isIdentStart, if_pos hlow]
  simpa [Bool.or_assoc] using hcases

/-- A key that needs no quotes is a word. -/
private theorem isWord_of_isPlainKey {name : String} (h : isPlainKey name = true) : IsWord name := by
  unfold isPlainKey at h
  split at h
  · exact nomatch h
  · next c cs htext =>
    obtain ⟨hc, hcs⟩ := Bool.and_eq_true_iff.1 h
    have hstart := isIdentStart_of_startsKey hc
    refine ⟨fun d hd => ?_, c, cs, htext, hstart⟩
    rw [htext] at hd
    rcases List.mem_cons.1 hd with rfl | hd
    · exact Text.isIdentPart_of_isIdentStart hstart
    · rcases Bool.or_eq_true_iff.1 (List.all_eq_true.1 hcs d hd) with hd | hd
      · exact Text.isIdentPart_of_isIdentStart (isIdentStart_of_startsKey hd)
      · simp [Text.isIdentPart, hd]

/-- **A key is written as a word**, or between quotes if it is none. -/
theorem keyToken_fieldKey (name : String) : ∃ t, KeyToken name t ∧
    ∀ cs : List Char, cs.head?.all Script.Read.endsWord = true → Spelt t (fieldKey name).toList cs := by
  unfold fieldKey
  split
  · next h =>
    exact ⟨_, .word (isWord_of_isPlainKey h), fun cs hcs =>
      .word (isWord_of_isPlainKey h) (endsWord_of_head? hcs)⟩
  · exact ⟨_, .quoted _, fun cs _ => .quoted name⟩

/-! ### Fields -/

variable {name space text : String} {type : FieldType}

/-- A text is a word if all of its characters may stand in one, and the first may start it. -/
private theorem isWord_of_all {w : String}
    (h : (w.toList.all Text.isIdentPart && w.toList.head?.any Text.isIdentStart) = true) :
    IsWord w := by
  obtain ⟨hall, hhead⟩ := Bool.and_eq_true_iff.1 h
  refine ⟨List.all_eq_true.1 hall, ?_⟩
  cases htext : w.toList with
  | nil =>
    rw [htext] at hhead
    exact nomatch hhead
  | cons c cs =>
    rw [htext] at hhead
    exact ⟨c, cs, rfl, hhead⟩

/-- A member that a value is checked with is a word. -/
private theorem isWord_of_mem_calls : ∀ w ∈ type.calls, IsWord w := by
  have hall : ∀ t ∈ FieldType.all, ∀ w ∈ t.calls,
      (w.toList.all Text.isIdentPart && w.toList.head?.any Text.isIdentStart) = true ∧ w ≠ "#" := by
    decide
  exact fun w hw => isWord_of_all (hall type (FieldType.mem_all type) w hw).1

/-- A type that has a call is checked with one member at least, and with few of them. -/
private theorem calls_of_expression? {e : String} (h : type.expression? space = some e) :
    ∃ w ws, type.calls = w :: ws ∧ ws.length < 4 := by
  cases type with
  | text => exact ⟨_, _, rfl, by decide⟩
  | url => exact ⟨_, _, rfl, by decide⟩
  | number => exact ⟨_, _, rfl, by decide⟩
  | boolean => exact ⟨_, _, rfl, by decide⟩
  | other => exact nomatch h

/-- **The text of a field holds that field and nothing else**, if the library goes by a name. -/
theorem exists_holds_fieldText (m : Module) (hspace : IsLooseName space)
    (h : fieldText? name type space = some text) :
    ∃ p, m.Holds text p ∧ p.IsFieldOf name space type.calls := by
  obtain ⟨e, he, rfl⟩ := Option.map_eq_some_iff.1 h
  obtain ⟨t, hkey, hspelt⟩ := keyToken_fieldKey name
  obtain ⟨w, ws, hcalls, hlength⟩ := calls_of_expression? he
  have hwords : ∀ v ∈ w :: ws, IsWord v := hcalls ▸ isWord_of_mem_calls
  -- no call is of a private member, for a word does not start with a hash
  have hhash : ∀ v ∈ w :: ws, v ≠ "#" := by
    rintro v hv rfl
    obtain ⟨-, c, cs, hc, hstart⟩ := hwords _ hv
    obtain ⟨rfl, -⟩ := List.cons.inj (hc.symm.trans (rfl : "#".toList = ['#']))
    exact absurd hstart (by decide)
  rw [hcalls]
  refine m.exists_holds hkey hspace hhash hlength ?_
  -- the text from its end on, one token after the other
  have hclose : Spells [' ', '\x7d', ')'] [.mark "\x7d", .mark ")"] :=
    Spells.behindBlank (.mark (by decide)) (Spells.mark (by decide) .nil)
  have hvalue := Spells.behindBlank (.word hspace.isWord (endsWord_of_head? rfl))
    (spells_calls hwords hclose)
  have hfield := Spells.behindBlank (hspelt _ rfl) (Spells.mark (c := ':') (by decide) hvalue)
  have hwhole := Spells.mark (c := '(') (by decide) (Spells.mark (c := '\x7b') (by decide) hfield)
  have htext : ("(\x7b " ++ (fieldKey name ++ ": " ++ e) ++ " \x7d)").toList =
      '(' :: '\x7b' :: ' ' :: ((fieldKey name).toList ++
        (':' :: ' ' :: (space.toList ++ (callChars (w :: ws) ++ [' ', '\x7d', ')'])))) := by
    rw [← hcalls]
    simp [FieldType.toList_of_expression? he]
  rw [htext]
  exact hwhole

/-- **The text of a field is read as that field**, if the library goes by an identifier. -/
theorem property_of_fieldText (m : Module) (hspace : IsName space)
    (h : fieldText? name type space = some text) :
    ∃ p, m.property text = .ok p ∧ p.IsFieldOf name space type.calls := by
  obtain ⟨p, hp, hfield⟩ := exists_holds_fieldText m hspace.isLooseName h
  exact ⟨p, hp.property_eq_ok, hfield⟩

/-- The usual name of the library is an identifier. -/
theorem isName_z : IsName "z" where
  isWord := ⟨List.all_eq_true.1 (by decide), 'z', [], rfl, by decide⟩
  isFree := by decide

/-- **Whatever the name of a variable is, the key that is written for it is read as that name**, and
the call of a type as calls of the library. The object that is read holds this one property, it
declares this one key, and nothing is left of the text: a name cannot end its own key. -/
theorem property_of_fieldKey (m : Module) (name : String) (hspace : IsLooseName space)
    (htype : type ≠ .other) :
    ∃ e p, type.expression? space = some e ∧ m.property (fieldKey name ++ ": " ++ e) = .ok p ∧
      p.IsFieldOf name space type.calls ∧ m.Holds (fieldKey name ++ ": " ++ e) p ∧
      ∀ x, p.Declares x ↔ x = name := by
  obtain ⟨e, he⟩ := Option.ne_none_iff_exists'.1 (mt FieldType.expression?_eq_none_iff.1 htype)
  have htext : fieldText? name type space = some (fieldKey name ++ ": " ++ e) := by
    rw [fieldText?, he, Option.map_some]
  obtain ⟨p, hp, hfield⟩ := exists_holds_fieldText m hspace htext
  exact ⟨e, p, he, hp.property_eq_ok, hfield, hp, hfield.isField.declares⟩

/-- A name that would end its key, its object and its line if it were not written between quotes. -/
theorem property_of_fieldKey_closing :
    IsLooseName "z" ∧ FieldType.url ≠ .other ∧ ∃ m p, Module.parse .module "" = .ok m ∧
      m.property "\"A\\\": 1 \x7d)\\n\": z.string().url()" = .ok p ∧
      p.IsFieldOf "A\": 1 \x7d)\n" "z" ["string", "url"] ∧
      ∀ x, p.Declares x ↔ x = "A\": 1 \x7d)\n" := by
  have hrun : (Module.parse .module "").toOption.any (fun _ => true) = true := by decide +kernel
  obtain ⟨m, hm, -⟩ := exists_ok_of_any hrun
  have hname := isName_z.isLooseName
  have htype : FieldType.url ≠ .other := by decide
  obtain ⟨e, p, he, hp, hfield, -, hdeclares⟩ := property_of_fieldKey m "A\": 1 \x7d)\n" hname htype
  obtain rfl := Option.some.inj he
  exact ⟨hname, htype, m, p, hm, by rw [← hp]; rfl, hfield, hdeclares⟩

end EnvSchema
