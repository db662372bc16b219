import EnvSchema.Remediation
import EnvSchema.Proofs.Runs

/-!
# What loading, adding and saving do

A field is added, or nothing happens, or adding fails; a schema is saved, or there is nothing to save,
or saving fails. What each of them does to the schema is said once, here.

* `Schema.load_eq_ok_iff` — the schema in a file;
* `Schema.add_cases`, `Schema.isAdded_iff` — what the schema is afterwards, and when there is
  something to add;
* `Edit.add_eq_ok_iff`, `Edit.add_eq_error_iff` — the same in a run;
* `Edit.save_apply`, `Edit.save_eq_ok`, `Edit.save_eq_error` — what saving does;
* `Schema.readBack_eq_ok`, `Schema.load_of_readBack` — what is read again then.
-/

namespace EnvSchema

open Script (Node Module)

variable {s s' : Schema} {name : String} {type : FieldType} {settings : SchemaSettings} {isAdded : Bool}

/-! ### Loading -/

/-- **The schema in a file** is what is read there, with nothing left to write. -/
theorem Schema.load_eq_ok_iff {t : Files.Tree} {path : String} :
    Schema.load t path = .ok s ↔ ∃ source m, t.readText path = .ok source ∧
      Module.parse (Schema.dialectOf path) source = .ok m ∧
      s = { path := path, module := m, declared := m.keys } := by
  simp only [Schema.load, Schema.parse, Files.orFailAt, except_bind_eq_ok_iff, mapError_eq_ok_iff]
  constructor
  · rintro ⟨source, hread, m, hm, h⟩
    cases h
    exact ⟨source, m, hread, hm, rfl⟩
  · rintro ⟨source, m, hread, hm, rfl⟩
    exact ⟨source, hread, m, hm, rfl⟩

/-! ### Adding -/

/-- **A schema with one more field**: a property read from the text of the field is in its module,
the name is declared, and it waits to be written. -/
structure Schema.Gets (s : Schema) (name : String) (type : FieldType) (settings : SchemaSettings)
    (s' : Schema) : Prop where
  undeclared : name ∉ s.declared
  module : ∃ text property m, fieldText? name type settings.space = some text ∧
    s.module.property text = .ok property ∧ s.module.appendField? settings property = some m ∧
    s'.module = { m with free := s.module.free + text.length + 7 }
  path : s'.path = s.path
  declared : s'.declared = s.declared.insert name
  pending : s'.pending = s.pending ++ [name]

/-- **Adding a field** leaves the schema alone or makes it one with that field. -/
theorem Schema.add_cases (h : s.add name type settings = .ok (isAdded, s')) :
    isAdded = false ∧ s' = s ∨ isAdded = true ∧ s.Gets name type settings s' := by
  -- the checks that come before the field is put in: declared, without a call, no property, no object
  unfold Schema.add at h
  split at h
  · cases h
    exact .inl ⟨rfl, rfl⟩
  next hd =>
  split at h
  · cases h
    exact .inl ⟨rfl, rfl⟩
  next text htext =>
  split at h
  · exact nomatch h
  next property hproperty =>
  split at h
  · exact nomatch h
  next m hm =>
  cases h
  exact .inr ⟨rfl, hd, ⟨text, property, m, htext, hproperty, hm, rfl⟩, rfl, rfl, rfl⟩

/-- What is added makes a schema with one more field. -/
theorem Schema.gets_of_add (h : s.add name type settings = .ok (true, s')) :
    s.Gets name type settings s' := by
  rcases Schema.add_cases h with ⟨hfalse, -⟩ | ⟨-, hgets⟩
  · cases hfalse
  · exact hgets

/-- There is one schema with one more field, and adding the field gives it. -/
theorem Schema.Gets.add_eq_ok (h : s.Gets name type settings s') :
    s.add name type settings = .ok (true, s') := by
  obtain ⟨hname, ⟨text, property, m, htext, hproperty, hm, hmodule⟩, hpath, hdeclared, hpending⟩ := h
  rw [Schema.add, if_neg hname, htext]
  dsimp only
  rw [hproperty]
  dsimp only
  rw [hm]
  dsimp only
  rw [← hmodule, ← hdeclared, ← hpending, ← hpath]

/-- **A field is added** just if its name is not declared and its type has a call. -/
theorem Schema.isAdded_iff (h : s.add name type settings = .ok (isAdded, s')) :
    isAdded = true ↔ name ∉ s.declared ∧ type ≠ .other := by
  unfold Schema.add at h
  split at h
  · next hd =>
    cases h
    exact iff_of_false Bool.false_ne_true fun hnot => hnot.1 hd
  next hd =>
  -- a type without a call has no text to add
  have htype : fieldText? name type settings.space = none ↔ type = .other := by
    rw [fieldText?, Option.map_eq_none_iff, FieldType.expression?_eq_none_iff]
  split at h
  · next hnone =>
    cases h
    exact iff_of_false Bool.false_ne_true fun hnot => hnot.2 (htype.1 hnone)
  next text htext =>
  have hother : type ≠ .other := fun ht => by simp [htype.2 ht] at htext
  split at h
  · exact nomatch h
  split at h
  · exact nomatch h
  cases h
  exact iff_of_true rfl ⟨hd, hother⟩

/-- A field is put into a module of the same dialect. -/
theorem Schema.Gets.dialect (h : s.Gets name type settings s') :
    s'.module.dialect = s.module.dialect := by
  obtain ⟨text, property, m, -, -, hm, hs⟩ := h.module
  obtain ⟨items, -, rfl⟩ := Option.map_eq_some_iff.1 hm
  rw [hs]

namespace Edit

variable {e e' : Editing} {f : Failure}

/-- Adding in a run is adding to its schema. -/
theorem add_apply (e : Editing) :
    Edit.add name type settings e =
      match e.schema.add name type settings with
      | .error f => .error (ofAddFault f) e
      | .ok (isAdded, s) => .ok isAdded ⟨e.session, s⟩ := by
  unfold Edit.add
  rw [bind_of_ok (show Edit.schema e = .ok e.schema e from rfl)]
  cases e.schema.add name type settings <;> rfl

/-- What is added in a run is added to its schema. -/
theorem add_eq_ok_iff :
    Edit.add name type settings e = .ok isAdded e' ↔
      ∃ s', e.schema.add name type settings = .ok (isAdded, s') ∧ e' = ⟨e.session, s'⟩ := by
  rw [add_apply]
  cases e.schema.add name type settings with
  | error f => simp
  | ok r => simp [Prod.ext_iff, eq_comm, and_assoc]

/-- Adding fails in a run just if it fails for its schema, and changes nothing then. -/
theorem add_eq_error_iff :
    Edit.add name type settings e = .error f e' ↔
      ∃ fault, e.schema.add name type settings = .error fault ∧ ofAddFault fault = f ∧ e' = e := by
  rw [add_apply]
  cases e.schema.add name type settings with
  | error fault => simp [eq_comm]
  | ok r => simp

/-- Adding that fails changes nothing. -/
theorem eq_of_add_eq_error (h : Edit.add name type settings e = .error f e') : e' = e := by
  obtain ⟨-, -, -, rfl⟩ := add_eq_error_iff.1 h
  rfl

/-! ### Saving -/

/-- **Saving** writes what is printed, if a name waits to be written, and reads it again. -/
theorem save_apply (e : Editing) :
    Edit.save e =
      if e.schema.hasPending then
        match e.session.tree.writeText e.schema.path e.schema.print.1 with
        | .error fault =>
          .error (.file (some (.writeSchema, e.schema.path)) fault) ⟨e.session, e.schema.print.2⟩
        | .ok t =>
          match e.schema.print.2.readBack e.schema.print.1 with
          | .ok s => .ok true ⟨{ e.session with tree := t }, s⟩
          | .error c =>
            .error (.script e.schema.path c) ⟨{ e.session with tree := t }, e.schema.print.2⟩
      else .ok false e := by
  unfold Edit.save
  rw [bind_of_ok (show Edit.schema e = .ok e.schema e from rfl)]
  cases e.schema.hasPending with
  | false => rfl
  | true =>
    -- printing leaves the path alone, so that the schema and its print can be taken apart
    have hpath : e.schema.print.2.path = e.schema.path := rfl
    rw [← hpath]
    cases e.schema.print with
    | mk text s =>
      change (liftM (Run.change fun t => Files.orFailAt .writeSchema s.path (t.writeText s.path text))
        >>= fun _ => _ : Edit Bool) ⟨e.session, s⟩ = _
      dsimp only
      cases hwrite : e.session.tree.writeText s.path text with
      | error fault =>
        refine bind_of_error ?_
        rw [Edit.lift_apply, Run.change_apply, hwrite]
        rfl
      | ok t =>
        have hlift : (liftM (Run.change fun t => Files.orFailAt .writeSchema s.path
            (t.writeText s.path text)) : Edit Unit) ⟨e.session, s⟩ =
            .ok () ⟨{ e.session with tree := t }, s⟩ := by
          rw [Edit.lift_apply, Run.change_apply, hwrite]
          rfl
        rw [bind_of_ok hlift]
        cases s.readBack text <;> rfl

/-- **Saving that does not fail** has nothing to write; or it writes what is printed and reads it
again. -/
theorem save_eq_ok {isWritten : Bool} (h : Edit.save e = .ok isWritten e') :
    isWritten = false ∧ e.schema.pending = [] ∧ e' = e ∨
      isWritten = true ∧ e.schema.pending ≠ [] ∧
        ∃ t, e.session.tree.writeText e.schema.path e.schema.print.1 = .ok t ∧
          e'.session = { e.session with tree := t } ∧
          e.schema.print.2.readBack e.schema.print.1 = .ok e'.schema := by
  rw [save_apply] at h
  have hpending : e.schema.hasPending = true ↔ e.schema.pending ≠ [] := by
    simp [Schema.hasPending]
  split at h
  next hp =>
    -- of the three ways through the save only the one with both steps done answers
    cases hwrite : e.session.tree.writeText e.schema.path e.schema.print.1 with
    | error fault =>
      rw [hwrite] at h
      exact nomatch h
    | ok t =>
      rw [hwrite] at h
      cases hread : e.schema.print.2.readBack e.schema.print.1 with
      | error c =>
        rw [hread] at h
        exact nomatch h
      | ok s =>
        rw [hread] at h
        cases h
        exact .inr ⟨rfl, hpending.1 hp, t, rfl, rfl, rfl⟩
  next hp =>
    cases h
    exact .inl ⟨rfl, by simpa [hpending] using hp, rfl⟩

/-- **Saving that fails** has tried to write what is printed, and leaves the schema printed. If it
could be written, then it cannot be read. -/
theorem save_eq_error (h : Edit.save e = .error f e') :
    e.schema.pending ≠ [] ∧ e'.schema = e.schema.print.2 ∧
      ((∃ fault, e.session.tree.writeText e.schema.path e.schema.print.1 = .error fault ∧
          e'.session = e.session) ∨
        ∃ t c, e.session.tree.writeText e.schema.path e.schema.print.1 = .ok t ∧
          e.schema.print.2.readBack e.schema.print.1 = .error c ∧
          e'.session = { e.session with tree := t }) := by
  rw [save_apply] at h
  split at h
  next hp =>
    refine ⟨by simpa [Schema.hasPending] using hp, ?_⟩
    -- the files refuse the text, or they take it and it cannot be read
    cases hwrite : e.session.tree.writeText e.schema.path e.schema.print.1 with
    | error fault =>
      rw [hwrite] at h
      cases h
      exact ⟨rfl, .inl ⟨fault, rfl, rfl⟩⟩
    | ok t =>
      rw [hwrite] at h
      cases hread : e.schema.print.2.readBack e.schema.print.1 with
      | error c =>
        rw [hread] at h
        cases h
        exact ⟨rfl, .inr ⟨t, c, rfl, rfl, rfl⟩⟩
      | ok s =>
        rw [hread] at h
        exact nomatch h
  next => exact nomatch h

end Edit

/-- What is read again declares the same names, and nothing waits. -/
theorem Schema.readBack_eq_ok {text : String} (h : s.readBack text = .ok s') :
    s'.path = s.path ∧ s'.declared = s.declared ∧ s'.pending = [] ∧
      Module.parse s.module.dialect text = .ok s'.module := by
  obtain ⟨m, hm, h⟩ := except_bind_eq_ok_iff.1 h
  cases h
  exact ⟨rfl, rfl, rfl, hm⟩

/-- **What is loaded from a text that has been read again** is the schema that was read, with the keys of
its module. -/
theorem Schema.load_of_readBack {t : Files.Tree} {text : String}
    (hdialect : s.module.dialect = Schema.dialectOf s.path) (hread : t.readText s.path = .ok text)
    (h : s.readBack text = .ok s') :
    Schema.load t s.path = .ok { s' with declared := s'.module.keys } := by
  obtain ⟨hpath, -, hpending, hparse⟩ := Schema.readBack_eq_ok h
  rw [hdialect] at hparse
  refine Schema.load_eq_ok_iff.2 ⟨text, s'.module, hread, hparse, ?_⟩
  rw [← hpending, ← hpath]

end EnvSchema
