import EnvSchema.Proofs.Schema.History
import EnvSchema.Proofs.Script.Printing
import EnvSchema.Proofs.Files.Tree

/-!
# A schema that has been saved

Saving reads the text that it has written, so the module is the one that is read from the file. The
names that are declared are not read again: they are those that were known before.

* `Editing.LiesAt` — the schema that is edited lies at a path, whatever the steps are that are made;
* `load_after_save` — what is loaded after the schema has been saved;
* `load_after_save_ne` — it is not always the schema that has been saved.
-/

namespace EnvSchema

open Files (Tree)
open Script (Module)

variable {e e' : Editing} {path : String}

/-! ### Where the schema lies -/

/-- **The schema that is edited lies at a path**: it is written there, in the dialect of the path, and
there is a text already. -/
structure Editing.LiesAt (e : Editing) (path : String) : Prop where
  path_eq : e.schema.path = path
  dialect : e.schema.module.dialect = Schema.dialectOf path
  readable : ∃ source, e.session.tree.readText path = .ok source

namespace Editing.LiesAt

/-- A schema that has been loaded lies where it was loaded from. -/
theorem of_load (h : Schema.load e.session.tree path = .ok e.schema) : e.LiesAt path := by
  obtain ⟨source, m, hread, hm, hs⟩ := Schema.load_eq_ok_iff.1 h
  refine ⟨by rw [hs], ?_, source, hread⟩
  rw [hs]
  exact Module.dialect_of_parse hm

/-- What is written where the schema lies can be read there. -/
theorem readText_of_writeText (h : e.LiesAt path) {text : String} {t : Tree}
    (hwrite : e.session.tree.writeText e.schema.path text = .ok t) : t.readText path = .ok text := by
  obtain ⟨source, hsource⟩ := h.readable
  -- where a text can be read one can be written, and it is read then
  obtain ⟨t', hwrite', hread⟩ := Tree.writeText_of_readText hsource text
  rw [h.path_eq] at hwrite
  cases hwrite.symm.trans hwrite'
  exact hread

/-- **A step leaves the schema where it lies.** -/
theorem step (h : e.LiesAt path) (step : EditStep) : (step.result e).2.LiesAt path := by
  cases step with
  | add name type settings =>
    rw [EditStep.result, EditStep.run]
    cases hadd : Edit.add name type settings e with
    | error f e₁ =>
      rw [Edit.eq_of_add_eq_error hadd]
      exact h
    | ok isAdded e₁ =>
      obtain ⟨s, hs, rfl⟩ := Edit.add_eq_ok_iff.1 hadd
      rcases Schema.add_cases hs with ⟨-, rfl⟩ | ⟨-, hgets⟩
      · exact h
      · exact ⟨hgets.path.trans h.path_eq, hgets.dialect.trans h.dialect, h.readable⟩
  | save =>
    rw [EditStep.result, EditStep.run]
    cases hsave : Edit.save e with
    | error f e₁ =>
      -- if it could be written, another text is there, which can be read all the same
      obtain ⟨-, hschema, ⟨-, -, hsession⟩ | ⟨t, -, hwrite, -, hsession⟩⟩ := Edit.save_eq_error hsave
      · refine ⟨by rw [hschema]; exact h.path_eq, by rw [hschema]; exact h.dialect, ?_⟩
        rw [hsession]
        exact h.readable
      · refine ⟨by rw [hschema]; exact h.path_eq, by rw [hschema]; exact h.dialect, ?_⟩
        rw [hsession]
        exact ⟨_, h.readText_of_writeText hwrite⟩
    | ok isWritten e₁ =>
      rcases Edit.save_eq_ok hsave with ⟨-, -, rfl⟩ | ⟨-, -, t, hwrite, hsession, hback⟩
      · exact h
      · obtain ⟨hpath, -, -, hparse⟩ := Schema.readBack_eq_ok hback
        refine ⟨hpath.trans h.path_eq, (Module.dialect_of_parse hparse).trans h.dialect, ?_⟩
        rw [hsession]
        exact ⟨_, h.readText_of_writeText hwrite⟩

/-- **It lies there after all steps.** -/
theorem after (h : e.LiesAt path) (steps : List EditStep) : (e.after steps).LiesAt path := by
  induction steps generalizing e with
  | nil => exact h
  | cons step steps ih => exact ih (h.step step)

/-- **What saving writes** is what is printed, and the schema that it leaves is read from that. -/
theorem written_of_save (h : e.LiesAt path) (hsave : EditStep.save.result e = (some true, e')) :
    e'.session.tree.readText path = .ok e.schema.print.1 ∧
      e.schema.print.2.readBack e.schema.print.1 = .ok e'.schema := by
  -- a save that answers with a yes has written something
  rcases Edit.save_eq_ok (EditStep.result_eq_some_iff.1 hsave) with
    ⟨hfalse, -⟩ | ⟨-, -, t, hwrite, hsession, hback⟩
  · cases hfalse
  · rw [hsession]
    exact ⟨h.readText_of_writeText hwrite, hback⟩

/-- **What is loaded after saving** is the schema that has been saved, with the keys of its module. -/
theorem load_of_save (h : e.LiesAt path) (hsave : EditStep.save.result e = (some true, e')) :
    Schema.load e'.session.tree path = .ok { e'.schema with declared := e'.schema.module.keys } ∧
      e'.schema.pending = [] := by
  obtain ⟨hread, hback⟩ := h.written_of_save hsave
  obtain ⟨hpath, -, hpending, -⟩ := Schema.readBack_eq_ok hback
  refine ⟨?_, hpending⟩
  have hdialect : e.schema.module.dialect = Schema.dialectOf e.schema.path := by
    rw [h.dialect, h.path_eq]
  rw [← h.path_eq] at hread ⊢
  exact Schema.load_of_readBack hdialect hread hback

end Editing.LiesAt

/-! ### Loading it again -/

/-- What is saved is read with the same keys, if the schema that is left has them. -/
private theorem rereads_of_save (h : e.LiesAt path)
    (hsave : EditStep.save.result e = (some true, e'))
    (hkeys : e'.schema.module.keys.toList = e.schema.module.keys.toList) : e.schema.module.Rereads := by
  obtain ⟨-, -, -, hparse⟩ := Schema.readBack_eq_ok (h.written_of_save hsave).2
  intro m hm
  cases hm.symm.trans hparse
  exact Names.ext fun x => by rw [Names.mem_iff, Names.mem_iff, hkeys]

/-- After steps of which the last one saves, the names that are declared are the keys of the module, if
the library always goes by an identifier and what is written is read with the keys that it was written
with. -/
private theorem declared_of_save {steps : List EditStep}
    (hkeys : e.schema.declared = e.schema.module.keys)
    (hsave : EditStep.save.result (e.after steps) = (some true, e'))
    (hlibrary : (e.answers steps).NamesLibrary) (hread : e.RereadsAll (steps ++ [.save])) :
    e'.schema.declared = e'.schema.module.keys := by
  have hafter : e.after (steps ++ [.save]) = e' := by
    rw [Editing.after_append]
    change (EditStep.save.result (e.after steps)).2 = e'
    rw [hsave]
  -- the last step adds nothing
  have hlog : (e.answers (steps ++ [.save])).NamesLibrary := by
    intro name type settings hmem
    rw [Editing.answers_append, List.mem_append] at hmem
    rcases hmem with hmem | hmem
    · exact hlibrary name type settings hmem
    · cases List.mem_singleton.1 hmem
  have hsame := keys_after (steps ++ [.save]) hkeys hlog hread
  rwa [hafter] at hsame

/-- **What is loaded after a schema has been saved** is that schema with the keys of its module as the
names that it declares, and nothing is left to write. These are the names that were declared before, if
the library always goes by an identifier and what is written is read with the keys that it was written
with: then it is the same schema, and all further steps do the same to both. -/
theorem load_after_save {steps : List EditStep}
    (hload : Schema.load e.session.tree path = .ok e.schema)
    (hsave : EditStep.save.result (e.after steps) = (some true, e')) :
    ∃ s, Schema.load e'.session.tree path = .ok s ∧
      s = { e'.schema with declared := e'.schema.module.keys } ∧ s.pending = [] ∧
      ((e.answers steps).NamesLibrary → e.RereadsAll (steps ++ [.save]) →
        s = e'.schema ∧ ∀ more, Editing.answers ⟨e'.session, s⟩ more = e'.answers more ∧
          Editing.after ⟨e'.session, s⟩ more = e'.after more) := by
  obtain ⟨hagain, hpending⟩ := ((Editing.LiesAt.of_load hload).after steps).load_of_save hsave
  refine ⟨_, hagain, rfl, hpending, fun hlibrary hread => ?_⟩
  obtain ⟨source, m, -, -, hs⟩ := Schema.load_eq_ok_iff.1 hload
  have hkeys : e.schema.declared = e.schema.module.keys := by rw [hs]
  -- the keys of the module are the names that are declared already
  have hsame : { e'.schema with declared := e'.schema.module.keys } = e'.schema := by
    rw [← declared_of_save hkeys hsave hlibrary hread]
  exact ⟨hsame, fun more => by rw [hsame]; exact ⟨rfl, rfl⟩⟩

/-- A schema that has been saved is loaded as it is. -/
theorem load_after_save_addedTwice : ∃ s e', Schema.load bareSession.tree "/schema.mjs" = .ok s ∧
    EditStep.save.result (Editing.after ⟨bareSession, s⟩ addedTwice) = (some true, e') ∧
    Schema.load e'.session.tree "/schema.mjs" = .ok e'.schema ∧
    ∀ more, Editing.answers ⟨e'.session, e'.schema⟩ more = e'.answers more := by
  obtain ⟨s, hload, -, hanswers, hsaved, hread⟩ := bare_addedTwice
  have hsave : EditStep.save.result (Editing.after ⟨bareSession, s⟩ addedTwice) =
      (some true, (EditStep.save.result (Editing.after ⟨bareSession, s⟩ addedTwice)).2) :=
    Prod.ext hsaved rfl
  obtain ⟨s', hagain, -, -, hsame⟩ := load_after_save (e := ⟨bareSession, s⟩) hload hsave
  obtain ⟨rfl, hmore⟩ := hsame (hanswers ▸ namesLibrary_answeredOnce) hread
  exact ⟨s, _, hload, hsave, hagain, fun more => (hmore more).1⟩

/-- A schema like the one in which the library is spelt with escapes, and another one in which it is
not. -/
def escapedTwiceText : String :=
  "const f = <T,>() => \x7b const s = z\\u0028\\u007ba\\u003a1\\u007d\\u0029.object(\x7b\x7d); " ++
    "const t = z.object(\x7b\x7d) \x7d"

/-- A session with that schema in a file. -/
def escapedSession : Session where
  tree := Tree.empty.withFile ["schema.ts"] (.text escapedTwiceText)

/-- What is added to the other one of the two schemas. -/
def addedThen : List EditStep := [.add "a" .text { object := "t" }]

set_option maxRecDepth 20000 in
/-- **A schema that has been saved and the one that is loaded then** may differ: the library goes by a
text with a key of its own, which is declared only when the file is read. -/
theorem load_after_save_ne : ∃ s e' s', Schema.load escapedSession.tree "/schema.ts" = .ok s ∧
    EditStep.save.result (Editing.after ⟨escapedSession, s⟩ addedOnce) = (some true, e') ∧
    Editing.RereadsAll ⟨escapedSession, s⟩ (addedOnce ++ [.save]) ∧
    Schema.load e'.session.tree "/schema.ts" = .ok s' ∧ s'.declared ≠ e'.schema.declared ∧
    Editing.answers ⟨e'.session, s'⟩ addedThen ≠ e'.answers addedThen := by
  have hrun : (Schema.load escapedSession.tree "/schema.ts").toOption.any (fun s =>
      let e := Editing.after ⟨escapedSession, s⟩ addedOnce
      (outcome? Edit.save e).any fun saved =>
        let keys := saved.2.schema.module.keys
        (saved.1 && keys.toList == e.schema.module.keys.toList) &&
          (keys.toList != saved.2.schema.declared.toList &&
            Editing.answers ⟨saved.2.session, { saved.2.schema with declared := keys }⟩ addedThen !=
              saved.2.answers addedThen)) = true := by
    decide +kernel
  obtain ⟨s, hload, htest⟩ := exists_ok_of_any hrun
  obtain ⟨⟨isWritten, e'⟩, hsaved, htest⟩ := (Option.any_eq_true _ _).1 htest
  obtain ⟨hkeys, htest⟩ := Bool.and_eq_true_iff.1 htest
  obtain ⟨hwritten, hkeys⟩ := Bool.and_eq_true_iff.1 hkeys
  obtain ⟨hdeclared, hanswers⟩ := Bool.and_eq_true_iff.1 htest
  obtain rfl : isWritten = true := hwritten
  have hsave : EditStep.save.result (Editing.after ⟨escapedSession, s⟩ addedOnce) = (some true, e') :=
    EditStep.result_eq_some_iff.2 (outcome?_eq_some_iff.1 hsaved)
  -- what is loaded then is known, so only the names and the answers have to be told apart
  have hlies := (Editing.LiesAt.of_load (e := ⟨escapedSession, s⟩) hload).after addedOnce
  obtain ⟨hagain, -⟩ := hlies.load_of_save hsave
  refine ⟨s, e', _, hload, hsave, ?_, hagain, ?_, bne_iff_ne.1 hanswers⟩
  · exact Editing.rereadsAll_of_last (by decide) (rereads_of_save hlies hsave (eq_of_beq hkeys))
  · exact fun hsame => bne_iff_ne.1 hdeclared (congrArg Names.toList hsame)

end EnvSchema
