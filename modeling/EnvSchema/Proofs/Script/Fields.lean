import EnvSchema.Proofs.Script.Calls

/-!
# Objects with one field

The text of a field is read between the brackets and braces of an object. Where its value calls
members of a library, the field declares its key and nothing else.

* `Node.IsField` — a property that declares one key;
* `Node.IsFieldOf` — a property whose value calls members of a library;
* `KeyToken` — the token of a key, a word or a quoted text;
* `Read.objectProperty_field`, `Read.object_gives`, `Read.bracketed_object` — the field, the object
  around it and the brackets around that;
* `Read.expr_field` — the object in brackets is an expression;
* `Module.Holds`, `Module.exists_holds` — a text that spells a field holds it and nothing else.
-/

namespace EnvSchema.Script

/-! ### Fields -/

/-- **A property that declares one key** and nothing else. -/
structure Node.IsField (name : String) (n : Node) : Prop where
  form : ∃ key value, n.form = .keyValue key value
  declares : ∀ x, n.Declares x ↔ x = name

/-- **The token of a key**: a word, or a quoted text. -/
inductive KeyToken (name : String) : Token → Prop
  | word (h : IsWord name) : KeyToken name (.word name)
  | quoted (raw : String) : KeyToken name (.string name raw)

/-- The key that a token stands for. -/
inductive Node.IsKey (name : String) (n : Node) : Prop
  | word (h : n.form = .ident name false)
  | quoted (raw : String) (h : n.form = .string name raw)

variable {name : String} {key value n : Node}

/-- A key declares nothing of its own. -/
private theorem Node.IsKey.not_declares (h : key.IsKey name) (x : String) : ¬key.Declares x := by
  have hkey : key.key? = none := by cases h <;> rename_i h <;> rw [key?, h]
  have hparts : key.parts = [] := by cases h <;> rename_i h <;> rw [parts, h] <;> rfl
  rw [declares_iff, hkey, hparts]
  rintro (hx | ⟨p, hp, -⟩)
  · cases hx
  · cases hp

/-- The text of a key is the name. -/
private theorem Node.IsKey.keyText? (h : key.IsKey name) : key.keyText? = some name := by
  cases h <;> rename_i h <;> rw [Node.keyText?, h]

/-- **A property with a key and a quiet value** declares its key. -/
theorem Node.isField_of_keyValue (hk : key.IsKey name) (hv : value.IsQuiet)
    (h : n.form = .keyValue key value) : n.IsField name where
  form := ⟨key, value, h⟩
  declares x := by
    have hkey : n.key? = some name := by
      rw [key?, h]
      exact hk.keyText?
    -- it declares its own key, and its two parts declare nothing
    rw [declares_iff, hkey, parts, h]
    constructor
    · rintro (hx | ⟨p, hp, hx⟩)
      · exact (Option.some.inj hx).symm
      · rcases List.mem_cons.1 hp with rfl | hp
        · exact absurd hx (hk.not_declares x)
        · rw [List.mem_singleton.1 hp] at hx
          exact absurd hx (hv.declares x)
    · rintro rfl
      exact .inl rfl

/-- **A property with a key whose value calls members of a library**, one after the other. -/
def Node.IsFieldOf (name lib : String) (ws : List String) (n : Node) : Prop :=
  ∃ key value, n.form = .keyValue key value ∧ key.IsKey name ∧ value.IsCalls lib ws

/-- Such a property declares its key. -/
theorem Node.IsFieldOf.isField {lib : String} {ws : List String} (h : n.IsFieldOf name lib ws) :
    n.IsField name := by
  obtain ⟨key, value, hn, hk, hv⟩ := h
  exact isField_of_keyValue hk hv.isQuiet hn

/-- A key is no mark. -/
private theorem KeyToken.isText_eq_false {t : Token} {s : String} (h : KeyToken name t)
    (hs : s.toList.head?.any Text.isIdentStart = false) : t.isText s = false := by
  cases h with
  | word hw =>
    refine beq_eq_false_iff_ne.2 ?_
    rintro rfl
    obtain ⟨-, c, cs, htext, hstart⟩ := hw
    rw [htext] at hs
    exact absurd (hstart.symm.trans hs) (by decide)
  | quoted raw => rfl

/-- The tokens of a field whose value calls members of a library. -/
def fieldTokens (key : Token) (lib : String) (ws : List String) : List Token :=
  key :: .mark ":" :: .word lib :: callTokens ws

namespace Read

variable {g : Grammar} {post : Node → Prop} {ts rest : List Token} {t : Token} {lib : String}
  {ws : List String}

/-! ### A field -/

/-- **The key of a property.** -/
private theorem propertyKey_gives (h : KeyToken name t) :
    Gives (propertyKey g) (t :: ts) (Node.IsKey name) ts := by
  refine .within (fun c hc => ⟨hc.isModule, hc.strict, hc.inGenerator, hc.inClassField⟩) ?_
  refine curPos_gives.any fun start => ?_
  cases h with
  | word hw =>
    refine (cur_gives rfl).next (bump_gives.any fun _ => ?_)
    exact (nodeFrom_gives start _).mono fun n hn => .word hn
  | quoted raw =>
    refine (cur_gives rfl).next (bump_gives.any fun _ => ?_)
    exact (nodeFrom_gives start _).mono fun n hn => .quoted raw hn

/-- **A field is read with its key and its value.** -/
theorem objectProperty_field (hk : KeyToken name t)
    (hv : Gives g.assign ts (Node.IsCalls lib ws) rest) :
    Gives (objectProperty g) (t :: .mark ":" :: ts) (Node.IsFieldOf name lib ws) rest := by
  refine curPos_gives.any fun start => (eat_no (unlike_cons (hk.isText_eq_false (by decide)))).next ?_
  refine (eat_no (unlike_cons (hk.isText_eq_false (by decide)))).next ?_
  have hstray : Gives strayModifier (t :: .mark ":" :: ts) (· = false) (t :: .mark ":" :: ts) :=
    .next (a := false) typed_no (.pure rfl)
  refine hstray.next (.bind .get fun r hr => (propertyKey_gives hk).bind fun key hkey => ?_)
  refine .next (a := false) typed_no ((eat_yes (by decide)).next ?_)
  refine .bind (.within (fun c hc => ⟨hc.isModule, hc.strict, hc.inGenerator, hc.inClassField⟩) hv) ?_
  exact fun value hvalue => .pure ⟨key, value, rfl, hkey, hvalue⟩

/-! ### The object around it -/

/-- **An object with one property**, between its braces. -/
theorem object_gives (hstart : Unlike ts "\x7d")
    (h : Gives (objectProperty g) ts post (.mark "\x7d" :: rest)) :
    Gives (object g) (.mark "\x7b" :: ts) (fun n => ∃ p, n.form = .object [p] ∧ post p) rest := by
  refine .within (fun c hc => ⟨hc.isModule, hc.strict, hc.inGenerator, hc.inClassField⟩) ?_
  -- one turn of the loop takes the property, and the next one the brace that closes
  have hitems : Gives (bracedItems (objectProperty g)) (.mark "\x7b" :: ts)
      (fun o => o.2 = none ∧ ∃ p, o.1 = [p] ∧ post p) rest := by
    refine bump_gives.any fun _ => .loop fun k => ?_
    refine .iterate_more (p := fun o => o.2 = none ∧ ∃ p, o.1 = [p] ∧ post p)
      (m := .mark "\x7d" :: rest) ?_ ?_
    · refine (eat_no hstart).next (h.bind fun p hp => ?_)
      exact (sees_yes (by decide)).next (.pure ⟨_, rfl, rfl, p, rfl, hp⟩)
    · rintro ⟨out, comma⟩ hout
      exact .iterate_done ((eat_yes (by decide)).next (.pure ⟨_, rfl, hout⟩))
  refine curPos_gives.any fun start => hitems.bind ?_
  rintro ⟨out, comma⟩ ⟨rfl, p, rfl, hp⟩
  refine (nodeFrom_gives start (.object [p])).bind fun n hn => ?_
  exact .pure ⟨p, hn, hp⟩

/-! ### The brackets around that -/

/-- An object whose one property is a field. -/
def IsFieldObject (name lib : String) (ws : List String) (n : Node) : Prop :=
  ∃ p, n.form = .object [p] ∧ p.IsFieldOf name lib ws

/-- An object is an operand. -/
private theorem isOperand_of_isFieldObject {n : Node} (h : IsFieldObject name lib ws n) : n.IsOperand := by
  obtain ⟨p, hp, -⟩ := h
  rw [Node.IsOperand, hp]
  trivial

/-- Behind an object in brackets there is nothing that makes it a pattern. -/
private theorem questionItem_gives {start : Nat} {n : Node} :
    Gives (questionItem g start n) ts (· = (n, false)) ts :=
  .next (a := true) (.not typed_no) (.pure rfl)

/-- **An object between brackets** is the one thing that stands there. -/
private theorem bracketItems_gives (h : Gives g.assign (.mark "\x7b" :: ts) post (.mark ")" :: rest)) :
    Gives (bracketItems g) (.mark "(" :: .mark "\x7b" :: ts) (fun o => ∃ n, o.1 = [n] ∧ post n)
      rest := by
  refine .within (fun c hc => ⟨hc.isModule, hc.strict, hc.inGenerator, hc.inClassField⟩) ?_
  refine (expect_yes (by decide)).any fun _ => ?_
  have hend {us : List Token} (hus : us ≠ []) : Gives seesEnd us (· = false) us := by
    refine cur?_gives.next (.pure ?_)
    cases us with
    | nil => exact absurd rfl hus
    | cons t us => rfl
  -- the object is no spread one
  have hspread : Gives (spreadable g) (.mark "\x7b" :: ts) post (.mark ")" :: rest) :=
    curPos_gives.any fun start => (eat_no (unlike_cons (by decide))).next h
  refine .bind (p := fun o => ∃ n, o.1 = [n] ∧ post n) (m := .mark ")" :: rest) ?_ ?_
  · -- one turn takes the object, and the next one finds the bracket that closes
    refine .loop fun k => .iterate_more (p := fun o => ∃ n, o.1 = [n] ∧ post n)
      (m := .mark ")" :: rest) ?_ ?_
    · have hopen : Gives (seesEnd <||> sees ")") (.mark "\x7b" :: ts) (· = false) (.mark "\x7b" :: ts) :=
        .or_false (hend (List.cons_ne_nil _ _)) (sees_no (unlike_cons (by decide)))
      refine hopen.next (.next (a := false) (.and_false (sees_no (unlike_cons (by decide)))) ?_)
      refine curPos_gives.any fun start => (arrowStart_gives _).any fun _ => ?_
      refine .next (a := false) (.next (a := false) typed_no (.pure rfl)) ?_
      refine curPos_gives.any fun _ => .next (a := false) typed_no ?_
      refine .bind (.within (fun c hc => ⟨hc.isModule, hc.strict, hc.inGenerator, hc.inClassField⟩)
        hspread) fun n hn => questionItem_gives.next ?_
      refine .next (a := false) (.or_false (.pure rfl) typed_no) (.next (a := n) (.pure rfl) ?_)
      refine .next (eat_no (unlike_cons (by decide))) (.next (a := [n]) (.pure rfl) ?_)
      exact (sees_yes (by decide)).next (.pure ⟨_, rfl, n, rfl, hn⟩)
    · rintro ⟨out, comma⟩ hout
      have hclose : Gives (seesEnd <||> sees ")") (.mark ")" :: rest) (· = true) (.mark ")" :: rest) :=
        .or_false (hend (List.cons_ne_nil _ _)) (sees_yes (by decide))
      exact .iterate_done (hclose.next (.pure ⟨_, rfl, hout⟩))
  · exact fun o ho => (expect_yes (by decide)).any fun _ => .pure ho

/-- An object whose one property is a field needs no check. -/
private theorem checkBracketItems_gives {n : Node} (h : IsFieldObject name lib ws n) :
    Gives (checkBracketItems [n]) ts (fun _ => True) ts := by
  obtain ⟨⟨s, _⟩, hp, key, value, hform, -⟩ := h
  obtain rfl : _ = Form.keyValue key value := hform
  obtain ⟨t, _⟩ := n
  obtain rfl : _ = Form.object [Node.mk s (.keyValue key value)] := hp
  -- there is one item, and it has one property
  exact Gives.any (.any (.pure trivial) fun _ => .pure trivial) fun _ => .pure trivial

/-- One object between brackets. -/
private theorem parenthesized_gives {start : Nat} {n : Node} (h : IsFieldObject name lib ws n) :
    Gives (parenthesized start [n]) ts (fun m => m.form = .paren n) ts := by
  obtain ⟨p, hp, -⟩ := h
  obtain ⟨s, _⟩ := n
  obtain rfl : _ = Form.object [p] := hp
  exact .any (.any (.pure trivial) fun _ => .pure trivial) fun _ => nodeFrom_gives start _

/-- **An object between brackets** is an expression between brackets, as no arrow is behind it. -/
theorem bracketed_object (canBeArrow : Bool)
    (h : Gives g.assign (.mark "\x7b" :: ts) (IsFieldObject name lib ws) [.mark ")"]) :
    Gives (bracketed g canBeArrow none) (.mark "(" :: .mark "\x7b" :: ts)
      (fun n => ∃ inner, n.form = .paren inner ∧ IsFieldObject name lib ws inner) [] := by
  refine curPos_gives.any fun start => ?_
  refine .bind (.within (fun c hc => ⟨hc.isModule, hc.strict, hc.inGenerator, hc.inClassField⟩)
    (bracketItems_gives h)) ?_
  rintro ⟨items, comma⟩ ⟨n, rfl, hn⟩
  refine context_gives.bind fun c _ => .next (a := false) typed_no ?_
  refine .next (a := false) (.and_no (.pure trivial) typed_no) (.next (a := none) (.pure rfl) ?_)
  -- without an arrow behind it, and without a pattern in it, it is an expression between brackets
  have hpattern : isPatternItem n = false := by
    obtain ⟨p, hp, -⟩ := hn
    rw [isPatternItem, hp]
  have hno : ([n].any isPatternItem || (none : Option Node).isSome) = false := by
    rw [List.any_cons, hpattern]
    rfl
  have harrow : Gives (sees "=>") [] (· = false) [] := sees_no fun t ht => nomatch ht
  refine .next (.or_false (.pure hno) harrow) ((checkBracketItems_gives hn).any fun _ => ?_)
  exact (parenthesized_gives hn).mono fun m hm => ⟨n, hm, hn⟩

/-! ### The whole text -/

/-- An expression that starts with a brace is an object. -/
private theorem primary_object (h : Gives (object g) (.mark "\x7b" :: ts) post rest) :
    Gives (primary g) (.mark "\x7b" :: ts) post rest :=
  curPos_gives.any fun _ => .bind .get fun _ _ => cur?_gives.next h

/-- An expression that starts with a bracket is what stands there, or an arrow function. -/
private theorem primary_bracketed (h : ∀ b, Gives (bracketed g b none) (.mark "(" :: ts) post rest) :
    Gives (primary g) (.mark "(" :: ts) post rest :=
  curPos_gives.any fun _ => .bind .get fun _ _ => cur?_gives.next (h _)

/-- **A field is read** from the tokens that stand for it, between braces and brackets. -/
theorem expr_field (depth : Nat) {w : String} (hk : KeyToken name t)
    (hlib : IsLooseName lib) (hw : ∀ v ∈ w :: ws, v ≠ "#") (hlength : ws.length < 4) :
    Gives (Grammar.ofDepth (depth + 14)).expr
      (.mark "(" :: .mark "\x7b" :: (fieldTokens t lib (w :: ws) ++ [.mark "\x7d", .mark ")"]))
      (fun n => ∃ inner, n.form = .paren inner ∧ IsFieldObject name lib (w :: ws) inner) [] := by
  -- from within: the calls, the object with the field, and the brackets around it
  have hvalue := assign_calls depth hlib hw hlength (.brace [.mark ")"])
  have hobject := object_gives (unlike_cons (hk.isText_eq_false (by decide)))
    (objectProperty_field hk hvalue)
  have hassign := assign_of_primary (depth + 4) (.brace _) (.bracket [])
    (fun n hn => isOperand_of_isFieldObject hn) (primary_object hobject)
  have hbrackets := fun b => bracketed_object b hassign
  refine sequence_gives .nil (assign_of_primary (depth + 8) (.bracket _) .nil ?_
    (primary_bracketed hbrackets))
  rintro n ⟨inner, hn, -⟩
  rw [Node.IsOperand, hn]
  trivial

end Read

namespace Module

/-- **A text holds one property and nothing else**: between brackets and braces it is an object with
that property alone, and reading the brackets leaves nothing of the text. -/
def Holds (m : Module) (text : String) (p : Node) : Prop :=
  ∃ n inner r, Read.expression (Reader.ofText .module m.free ("(\x7b " ++ text ++ " \x7d)").toList) =
      .ok n r ∧ n.form = .paren inner ∧ inner.form = .object [p] ∧
    r.current = none ∧ r.next = none ∧ r.rest = []

/-- What a text holds is the property that is read from it. -/
theorem Holds.property_eq_ok {m : Module} {text : String} {p : Node} (h : m.Holds text p) :
    m.property text = .ok p := by
  obtain ⟨n, inner, r, hexpr, hn, hinner, -⟩ := h
  unfold property
  dsimp only
  rw [hexpr]
  dsimp only
  rw [unbracketed, hn]
  dsimp only
  rw [hinner]

/-- Where no token is to come, nothing is left of the text. -/
private theorem rest_eq_nil {r : Reader} (h : r.At []) :
    r.current = none ∧ r.next = none ∧ r.rest = [] := by
  obtain ⟨us, hspells, hus⟩ := h.tokens
  obtain ⟨hcurrent, hrest⟩ := List.append_eq_nil_iff.1 hus
  obtain ⟨hnext, rfl⟩ := List.append_eq_nil_iff.1 hrest
  refine ⟨by simpa using hcurrent, by simpa using hnext, ?_⟩
  generalize r.rest = cs at hspells
  cases hspells with
  | nil => rfl

/-- **A text that spells a field holds it and nothing else.** -/
theorem exists_holds (m : Module) {text lib w : String} {t : Token} {ws : List String}
    (hk : KeyToken name t) (hlib : IsLooseName lib) (hw : ∀ v ∈ w :: ws, v ≠ "#")
    (hlength : ws.length < 4)
    (h : Spells ("(\x7b " ++ text ++ " \x7d)").toList (.mark "(" :: .mark "\x7b" ::
      (fieldTokens t lib (w :: ws) ++ [.mark "\x7d", .mark ")"]))) :
    ∃ p, m.Holds text p ∧ p.IsFieldOf name lib (w :: ws) := by
  have hat : (Reader.ofText .module m.free ("(\x7b " ++ text ++ " \x7d)").toList).At
      (.mark "(" :: .mark "\x7b" :: (fieldTokens t lib (w :: ws) ++ [.mark "\x7d", .mark ")"])) := by
    refine ⟨⟨rfl, rfl, ?_, Nat.le_refl _⟩, ⟨rfl, rfl, rfl, rfl⟩, _, h, rfl⟩
    intro mode hmode
    rw [List.mem_singleton.1 hmode]
    rfl
  -- the reader goes deep enough for the phrases that are nested here
  obtain ⟨d, hd⟩ : ∃ d, (Reader.ofText .module m.free ("(\x7b " ++ text ++ " \x7d)").toList).depth =
      d + 14 := ⟨_, (Nat.sub_add_cancel (by unfold Reader.depth; omega)).symm⟩
  obtain ⟨n, r, hread, ⟨inner, hn, p, hinner, hp⟩, hr⟩ := Read.expr_field d hk hlib hw hlength _ hat
  refine ⟨p, ⟨n, inner, r, ?_, hn, hinner, rest_eq_nil hr⟩, hp⟩
  rw [← hread, ← hd]
  rfl

end Module

end EnvSchema.Script
