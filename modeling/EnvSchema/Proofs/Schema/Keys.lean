import EnvSchema.Proofs.Schema.Adding
import EnvSchema.Proofs.Schema.Field
import EnvSchema.Proofs.Script.Change

/-!
# The keys of a schema with one more field

A field is put at the end of one object, deep within the module. What the module declares afterwards
is what it declared before, and what the field declares.

* `gains_appendToVariable?` — the variable with the server's fields declares the field's key more;
* `Module.mem_keys_of_appendField?` — so does the module;
* `Schema.Gets.keys` — **a schema that gets a field declares one name more**, if the library goes by
  an identifier.
-/

namespace EnvSchema

open Script (IsName Module Node)

variable {property a b : Node} {settings : SchemaSettings} {name : String}

/-- An object declares the keys of its properties. -/
private theorem declares_append (s : Script.Span) (props : List Node) (hp : property.IsField name)
    (x : String) : (Node.mk s (.object (props ++ [property]))).Declares x ↔
      (Node.mk s (.object props)).Declares x ∨ x = name := by
  rw [Node.declares_iff, Node.declares_iff (n := .mk s (.object props))]
  have hparts : (∃ p ∈ props ++ [property], p.Declares x) ↔ (∃ p ∈ props, p.Declares x) ∨ x = name := by
    simp only [List.mem_append, List.mem_singleton, or_and_right, exists_or, exists_eq_left]
    rw [hp.declares x]
  change (none = some x ∨ ∃ p ∈ props ++ [property], p.Declares x) ↔
    (none = some x ∨ ∃ p ∈ props, p.Declares x) ∨ x = name
  rw [hparts, or_assoc]

/-- An argument with a field at the end declares its key more. -/
private theorem gains_appendToObject? (hp : property.IsField name)
    (h : appendToObject? property a = some b) : a.Gains (· = name) b := by
  -- the argument is an object, or it is one that is spread
  unfold appendToObject? at h
  split at h
  · next s props =>
    obtain rfl := Option.some.inj h
    exact ⟨rfl, rfl, declares_append s props hp⟩
  · next s t props =>
    obtain rfl := Option.some.inj h
    have hobject : (Node.mk t (.object props)).Gains (· = name) (.mk t (.object (props ++ [property]))) :=
      ⟨rfl, rfl, declares_append t props hp⟩
    have hparts (c : Node) : (Node.mk s (.spread c)).parts = [] ++ c :: [] := rfl
    exact hobject.of_part (hparts _) (hparts _) rfl rfl rfl
  · cases h

/-- **The variable with the server's fields** declares the key of a field more that it is given. -/
private theorem gains_appendToVariable? (hp : property.IsField name)
    (h : appendToVariable? settings property a = some b) : a.Gains (· = name) b := by
  -- the variable is the server's, or nothing is put into it
  have hchosen {c : Bool} {o : Option Node} (h : (if c = true then o else none) = some b) :
      o = some b := by
    cases c with
    | true => exact h
    | false => cases h
  unfold appendToVariable? at h
  split at h
  · next s q t callee args types isDefinite =>
    obtain ⟨args', hargs, rfl⟩ := Option.map_eq_some_iff.1 (hchosen h)
    obtain ⟨l₁, c, d, l₂, rfl, -, hcd, rfl⟩ := Node.changeFirstOf_eq_some_iff.1 hargs
    -- from the argument to the call, and from the call to the variable
    have hcall (c : Node) : (Node.mk t (.call callee (l₁ ++ c :: l₂) types)).parts =
        (callee :: l₁) ++ c :: (l₂ ++ types.toList) := by
      simp [Node.parts, Node.form, Script.Form.parts]
    have hgain := (gains_appendToObject? hp hcd).of_part (hcall c) (hcall d) rfl rfl rfl
    have hvariable (c : Node) : (Node.mk s (.declarator q (some c) isDefinite)).parts =
        [q] ++ c :: [] := rfl
    exact hgain.of_part (hvariable _) (hvariable _) rfl rfl rfl
  · cases h

/-- **A module with a field more** declares its key more. -/
theorem Script.Module.mem_keys_of_appendField? {m m' : Module} (hp : property.IsField name)
    (h : m.appendField? settings property = some m') (x : String) :
    x ∈ m'.keys ↔ x ∈ m.keys ∨ x = name := by
  -- the keys of a module are those that its items declare
  have hkeys (items : List Node) : x ∈ (Module.keys { m with items := items }) ↔
      ∃ p ∈ items, p.Declares x := by
    simp only [Module.keys, Names.mem_ofList, Module.nodes, List.mem_filterMap, List.mem_flatMap,
      Node.Declares]
    grind
  obtain ⟨items, hitems, rfl⟩ := Option.map_eq_some_iff.1 h
  obtain ⟨l₁, a, b, l₂, hl, -, hab, rfl⟩ := Node.changeFirstOf_eq_some_iff.1 hitems
  have hgain := Node.gains_changeFirst (fun _ _ => gains_appendToVariable? hp) hab
  have hbefore : x ∈ m.keys ↔ ∃ p ∈ l₁ ++ a :: l₂, p.Declares x := by
    rw [← hl]
    exact hkeys m.items
  rw [hkeys, hbefore]
  exact Node.exists_declares_middle hgain x

/-- **A schema that gets a field** declares one name more, if the library goes by an identifier. -/
theorem Schema.Gets.keys {s s' : Schema} {type : FieldType} (hspace : IsName settings.space)
    (h : s.Gets name type settings s') (x : String) :
    x ∈ s'.module.keys ↔ x ∈ s.module.keys ∨ x = name := by
  obtain ⟨text, property, m, htext, hproperty, hm, hs⟩ := h.module
  obtain ⟨p, hp, hfield⟩ := property_of_fieldText s.module hspace htext
  -- the property that was read is the field, for a text is read as one thing
  obtain rfl := Except.ok.inj (hproperty.symm.trans hp)
  rw [hs]
  exact Script.Module.mem_keys_of_appendField? hfield.isField hm x

end EnvSchema
