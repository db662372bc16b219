import EnvSchema.Proofs.Schema.Saving
import EnvSchema.Proofs.Script.Recutting

/-!
# Whether a saved file is what is printed of its schema

A schema that has been saved is read from its file, and saving it again prints it again. The same text
comes of that as long as the cuts that are found in literals are not followed by further ones:

* `Module.PageStable` — what is read from the page of a module has the same page;
* `save_prints` — **when a file that has been saved is what is printed of its schema**;
* `save_prints_drift`, `drifts` — a template that is cut again each time.
-/

namespace EnvSchema

open Script (Module Marked KeepsCuts Breaks BreaksTwice breakAfterComments)

/-- **What is read from the page of a module has the same page.** -/
def Script.Module.PageStable (m : Module) : Prop :=
  ∀ n, Module.parse m.dialect m.emitted = .ok n → n.emitted = m.emitted

variable {e e' : Editing} {path : String}

/-- **When a file that has been saved is what is printed of its schema.** The file holds the page of the
schema as it was before, with lines cut. If no line of it is cut, and what is read from the page has the
same page, then it is what is printed of the schema that is read. And if that schema has the same page
but for some of the cuts, then it is so just if no line whose cut is kept starts with two ends of
comments. -/
theorem save_prints {steps : List EditStep} (hload : Schema.load e.session.tree path = .ok e.schema)
    (hsave : EditStep.save.result (e.after steps) = (some true, e')) :
    e'.session.tree.readText path =
        .ok (breakAfterComments (e.after steps).schema.module.emitted) ∧
      ((e.after steps).schema.module.PageStable →
        (∀ line ∈ Text.linesWithEnds (e.after steps).schema.module.emitted.toList, ¬ Breaks line) →
        e'.session.tree.readText path = .ok e'.schema.print.1) ∧
      ∀ marked, KeepsCuts (e.after steps).schema.module.emitted marked e'.schema.module.emitted →
        (e'.session.tree.readText path = .ok e'.schema.print.1 ↔
          ∀ mark ∈ marked, mark.2 = true → ¬ BreaksTwice mark.1) := by
  obtain ⟨hwritten, hback⟩ := ((Editing.LiesAt.of_load hload).after steps).written_of_save hsave
  have hparse := (Schema.readBack_eq_ok hback).2.2.2
  change Module.parse _ (breakAfterComments (e.after steps).schema.module.emitted) = _ at hparse
  -- the file holds the page of the schema before, cut; what is printed is the page of the one after
  have hprint : e'.session.tree.readText path = .ok e'.schema.print.1 ↔
      breakAfterComments e'.schema.module.emitted =
        breakAfterComments (e.after steps).schema.module.emitted := by
    rw [hwritten, Except.ok.injEq]
    exact eq_comm
  refine ⟨hwritten, fun hstable hnone => ?_, fun marked hkept => ?_⟩
  · -- nothing is cut, so the page itself is in the file
    have hsame := Script.breakAfterComments_eq_self_iff.2 hnone
    rw [hsame] at hparse
    rw [hprint, hstable _ hparse]
  · rw [hprint]
    exact hkept.breakAfterComments_eq_iff

/-- A schema next to a template whose second line starts with two ends of comments. -/
def driftText : String := "const a = `\n*/ */ x`;\nconst serverSchema = z.object(\x7b\x7d);\n"

/-- A session with that schema in a file. -/
def driftSession : Session where
  tree := Files.Tree.empty.withFile ["schema.mjs"] (.text driftText)

/-- A field that is added to it. -/
def driftSteps : List EditStep := [.add "KEY" .text {}]

/-- The lines of its page then, of which the second one is found cut when it is read again. -/
def driftMarked : Marked :=
  [("const a = `\n".toList, false), ("*/ */ x`;\n".toList, true),
    ("const serverSchema = z.object(\x7b\n".toList, false), ("    KEY: z.string()\n".toList, false),
    ("\x7d);\n".toList, false)]

set_option maxRecDepth 20000 in
/-- That schema is saved, and its template has another cut when it is printed again. -/
theorem drift_saved : ∃ s e', Schema.load driftSession.tree "/schema.mjs" = .ok s ∧
    EditStep.save.result (Editing.after ⟨driftSession, s⟩ driftSteps) = (some true, e') ∧
    (Editing.after ⟨driftSession, s⟩ driftSteps).schema.module.PageStable ∧
    KeepsCuts (Editing.after ⟨driftSession, s⟩ driftSteps).schema.module.emitted driftMarked
      e'.schema.module.emitted ∧
    e'.schema.print.1 ≠ (Editing.after ⟨driftSession, s⟩ driftSteps).schema.print.1 := by
  have hrun : (Schema.load driftSession.tree "/schema.mjs").toOption.any (fun s =>
      let e := Editing.after ⟨driftSession, s⟩ driftSteps
      let page := e.schema.module.emitted
      (outcome? Edit.save e).any fun saved =>
        (saved.1 && (Module.parse e.schema.module.dialect page).toOption.any fun n => n.emitted == page) &&
          (Text.linesWithEnds page.toList == driftMarked.map (·.1) &&
            saved.2.schema.module.emitted.toList == Script.keptText driftMarked) &&
          saved.2.schema.print.1 != e.schema.print.1) = true := by
    decide +kernel
  obtain ⟨s, hload, htest⟩ := exists_ok_of_any hrun
  obtain ⟨⟨isWritten, e'⟩, hsaved, htest⟩ := (Option.any_eq_true _ _).1 htest
  obtain ⟨htest, hprint⟩ := Bool.and_eq_true_iff.1 htest
  obtain ⟨hwritten, hkept⟩ := Bool.and_eq_true_iff.1 htest
  obtain ⟨hwritten, hstable⟩ := Bool.and_eq_true_iff.1 hwritten
  obtain ⟨hlines, htext⟩ := Bool.and_eq_true_iff.1 hkept
  obtain rfl : isWritten = true := hwritten
  -- all that was found out while running is put together
  have hsave : EditStep.save.result (Editing.after ⟨driftSession, s⟩ driftSteps) = (some true, e') :=
    EditStep.result_eq_some_iff.2 (outcome?_eq_some_iff.1 hsaved)
  refine ⟨s, e', hload, hsave, fun n hn => ?_, ⟨(eq_of_beq hlines).symm, eq_of_beq htext⟩,
    bne_iff_ne.1 hprint⟩
  obtain ⟨n', hn', hpage⟩ := exists_ok_of_any hstable
  cases hn.symm.trans hn'
  exact eq_of_beq hpage

/-- When the file of that schema is what is printed of it. -/
theorem save_prints_drift : ∃ s e', Schema.load driftSession.tree "/schema.mjs" = .ok s ∧
    EditStep.save.result (Editing.after ⟨driftSession, s⟩ driftSteps) = (some true, e') ∧
    (e'.session.tree.readText "/schema.mjs" = .ok e'.schema.print.1 ↔
      ∀ mark ∈ driftMarked, mark.2 = true → ¬ BreaksTwice mark.1) := by
  obtain ⟨s, e', hload, hsave, -, hkept, -⟩ := drift_saved
  obtain ⟨-, -, hiff⟩ := save_prints (e := ⟨driftSession, s⟩) hload hsave
  exact ⟨s, e', hload, hsave, hiff driftMarked hkept⟩

/-- **A file that is not what is printed of its schema**: a template is cut once more when the schema
is printed that was read from the file. -/
theorem drifts : ∃ s e', Schema.load driftSession.tree "/schema.mjs" = .ok s ∧
    EditStep.save.result (Editing.after ⟨driftSession, s⟩ driftSteps) = (some true, e') ∧
    (Editing.after ⟨driftSession, s⟩ driftSteps).schema.module.PageStable ∧
    e'.session.tree.readText "/schema.mjs" ≠ .ok e'.schema.print.1 := by
  obtain ⟨s, e', hload, hsave, hstable, -, hne⟩ := drift_saved
  refine ⟨s, e', hload, hsave, hstable, fun hsame => hne ?_⟩
  have hlies := (Editing.LiesAt.of_load (e := ⟨driftSession, s⟩) hload).after driftSteps
  have hwritten := (hlies.written_of_save hsave).1
  exact Except.ok.inj (hsame.symm.trans hwritten)

end EnvSchema
