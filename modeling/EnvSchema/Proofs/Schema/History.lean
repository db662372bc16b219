import EnvSchema.Proofs.Schema.Keys

/-!
# What a schema declares while it is edited

The names that a schema declares are read from its module once, when it is loaded. From then on the
set and the module are kept side by side: a field that is added goes into both, saving replaces the
module by what is read from its text, and a step that fails may have changed one of them.

* `EditStep`, `Editing.after`, `Editing.answers` — steps in any order, each from the state that the
  one before left, and what they answered;
* `Schema.Accounts` — what is known of the schema from the answers alone: which names it declares,
  and which of them wait to be written;
* `Schema.Accounts.step` — a step keeps the accounts, so they hold after all steps;
* `keys_after` — the set is the one of the module's keys after all steps, if each of them keeps it so;
* `declared_after` — **the accounts hold, and the set is the one of the module's keys**, if the
  library goes by an identifier wherever a field is added.

A library that goes by a text which is no identifier may bring keys of its own into the module. Then
the set lacks them; `declared_ne_keys` is such a case.
-/

namespace EnvSchema

open Script (IsName Module Node)

/-! ### Steps -/

/-- **A step of editing.** -/
inductive EditStep where
  | add (name : String) (type : FieldType) (settings : SchemaSettings)
  | save
  deriving Repr, DecidableEq

/-- What a step does. -/
def EditStep.run : EditStep → Edit Bool
  | add name type settings => Edit.add name type settings
  | save => Edit.save

/-- **What a step answers**, or nothing if it fails, and the state that it leaves in both cases. -/
def EditStep.result (step : EditStep) (e : Editing) : Option Bool × Editing :=
  match step.run e with
  | .ok answer e' => (some answer, e')
  | .error _ e' => (none, e')

/-- A step that has answered is a run that does. -/
theorem EditStep.result_eq_some_iff {step : EditStep} {e e' : Editing} {answer : Bool} :
    step.result e = (some answer, e') ↔ step.run e = .ok answer e' := by
  unfold result
  cases step.run e <;> simp

/-- Steps with what they answered. -/
abbrev History := List (EditStep × Option Bool)

namespace Editing

/-- **The state after some steps**, each of which starts from the one that the step before left. -/
def after (e : Editing) : List EditStep → Editing
  | [] => e
  | step :: steps => (step.result e).2.after steps

/-- What each of some steps answers. -/
def answers (e : Editing) : List EditStep → History
  | [] => []
  | step :: steps => (step, (step.result e).1) :: (step.result e).2.answers steps

/-- The state after more steps is the one that these leave. -/
theorem after_append (e : Editing) (steps more : List EditStep) :
    e.after (steps ++ more) = (e.after steps).after more := by
  induction steps generalizing e with
  | nil => rfl
  | cons step steps ih => exact ih _

/-- More steps answer as they do from the state that is left. -/
theorem answers_append (e : Editing) (steps more : List EditStep) :
    e.answers (steps ++ more) = e.answers steps ++ (e.after steps).answers more := by
  induction steps generalizing e with
  | nil => rfl
  | cons step steps ih => exact congrArg ((step, (step.result e).1) :: ·) (ih _)

end Editing

namespace History

/-- The name that a step added. -/
def addedName? : EditStep × Option Bool → Option String
  | (.add name _ _, some true) => some name
  | _ => none

/-- Whether a step wrote the schema. -/
def isWritten : EditStep × Option Bool → Bool
  | (.save, some true) => true
  | _ => false

/-- **The names that were added**, in the order in which they were. -/
def added (log : History) : List String := log.filterMap addedName?

/-- **The steps behind the last one that wrote the schema**; all steps, if there was none. -/
def sinceWritten (log : History) : History :=
  (log.reverse.takeWhile fun entry => !isWritten entry).reverse

variable {log : History} {entry : EditStep × Option Bool}

theorem added_append : added (log ++ [entry]) = added log ++ (addedName? entry).toList := by
  rw [added, List.filterMap_append]
  cases h : addedName? entry with
  | none => simp [h]; rfl
  | some name => simp [h]; rfl

/-- A step that wrote the schema has nothing behind it. -/
theorem sinceWritten_of_isWritten (h : isWritten entry = true) : sinceWritten (log ++ [entry]) = [] := by
  simp [sinceWritten, h]

/-- Any other step is one more behind the last one that did. -/
theorem sinceWritten_append (h : isWritten entry = false) :
    sinceWritten (log ++ [entry]) = sinceWritten log ++ [entry] := by
  simp [sinceWritten, h]

/-- What was added since the schema was written has been added. -/
theorem added_sinceWritten_sublist : (added (sinceWritten log)).Sublist (added log) := by
  refine List.Sublist.filterMap _ ?_
  have h := (List.takeWhile_sublist (l := log.reverse) fun entry => !isWritten entry).reverse
  rwa [List.reverse_reverse] at h

end History

/-! ### Accounts -/

/-- **What is known of a schema from the answers alone**, if some names were declared when it was
loaded. -/
structure Schema.Accounts (loaded : Names) (log : History) (s : Schema) : Prop where
  /-- What is declared was declared at the beginning, or has been added. -/
  declared : ∀ x, x ∈ s.declared ↔ x ∈ loaded ∨ x ∈ log.added
  /-- No name has been added twice. -/
  once : log.added.Nodup
  /-- What has been added was not declared at the beginning. -/
  fresh : ∀ x ∈ log.added, x ∉ loaded
  /-- What waits to be written was added since the schema was written last. -/
  pending : s.pending = log.sinceWritten.added

namespace Schema.Accounts

variable {loaded : Names} {log : History} {s s' : Schema} {step : EditStep} {answer : Option Bool}

/-- A step that leaves the names alone keeps the accounts, if it added and wrote nothing. -/
private theorem of_same (h : Accounts loaded log s) (hdeclared : s'.declared = s.declared)
    (hpending : s'.pending = s.pending) (hadded : History.addedName? (step, answer) = none)
    (hwritten : History.isWritten (step, answer) = false) :
    Accounts loaded (log ++ [(step, answer)]) s' := by
  -- nothing is added by this step, so the names added are those of before
  have hsame : History.added (log ++ [(step, answer)]) = log.added := by
    rw [History.added_append, hadded]
    exact List.append_nil _
  refine ⟨?_, ?_, ?_, ?_⟩
  · rw [hdeclared, hsame]
    exact h.declared
  · rw [hsame]
    exact h.once
  · rw [hsame]
    exact h.fresh
  · rw [hpending, History.sinceWritten_append hwritten, History.added_append, hadded, h.pending]
    exact (List.append_nil _).symm

/-- A field that is added is accounted for. -/
private theorem of_gets {name : String} {type : FieldType} {settings : SchemaSettings}
    (h : Accounts loaded log s) (hs : s.Gets name type settings s') :
    Accounts loaded (log ++ [(.add name type settings, some true)]) s' := by
  have hadded : History.added (log ++ [(.add name type settings, some true)]) = log.added ++ [name] :=
    History.added_append
  -- a name that is not declared is neither one of the beginning nor one that was added
  have hnew : name ∉ loaded ∧ name ∉ log.added := by
    have hnot := hs.undeclared
    rw [h.declared, not_or] at hnot
    exact hnot
  refine ⟨fun x => ?_, ?_, fun x hx => ?_, ?_⟩
  · rw [hs.declared, Names.mem_insert, h.declared, hadded, List.mem_append, List.mem_singleton]
    grind
  · rw [hadded, List.nodup_append]
    refine ⟨h.once, List.pairwise_singleton _ _, ?_⟩
    rintro x hx y hy rfl
    rw [List.mem_singleton.1 hy] at hx
    exact hnew.2 hx
  · rw [hadded, List.mem_append, List.mem_singleton] at hx
    rcases hx with hx | rfl
    · exact h.fresh x hx
    · exact hnew.1
  · rw [hs.pending, h.pending, History.sinceWritten_append rfl, History.added_append]
    rfl

/-- A schema that is written has nothing that waits. -/
private theorem of_written (h : Accounts loaded log s) (hdeclared : s'.declared = s.declared)
    (hpending : s'.pending = []) : Accounts loaded (log ++ [(.save, some true)]) s' := by
  have hsame : History.added (log ++ [(.save, some true)]) = log.added := by
    rw [History.added_append]
    exact List.append_nil _
  refine ⟨?_, ?_, ?_, ?_⟩
  · rw [hdeclared, hsame]
    exact h.declared
  · rw [hsame]
    exact h.once
  · rw [hsame]
    exact h.fresh
  · rw [hpending, History.sinceWritten_of_isWritten rfl]
    rfl

end Schema.Accounts

/-! ### What one step does -/

/-- **The schema that saving leaves**: the same one; or the one that is left by printing; or the one
that is read from what was printed. -/
theorem Edit.save_cases {e : Editing} {answer : Option Bool} {e' : Editing}
    (h : EditStep.save.result e = (answer, e')) :
    answer = some false ∧ e'.schema = e.schema ∨
      answer = none ∧ e'.schema = e.schema.print.2 ∨
      answer = some true ∧ e.schema.print.2.readBack e.schema.print.1 = .ok e'.schema := by
  rw [EditStep.result, EditStep.run] at h
  -- saving that fails leaves the schema as printing did
  cases hsave : Edit.save e with
  | ok isWritten e₁ =>
    rw [hsave] at h
    cases h
    rcases Edit.save_eq_ok hsave with ⟨rfl, -, rfl⟩ | ⟨rfl, -, t, -, -, hread⟩
    · exact .inl ⟨rfl, rfl⟩
    · exact .inr (.inr ⟨rfl, hread⟩)
  | error f e₁ =>
    rw [hsave] at h
    cases h
    exact .inr (.inl ⟨rfl, (Edit.save_eq_error hsave).2.1⟩)

/-- **The schema that adding leaves**: the same one; or one with the field. -/
theorem Edit.add_cases {name : String} {type : FieldType} {settings : SchemaSettings} {e e' : Editing}
    {answer : Option Bool} (h : (EditStep.add name type settings).result e = (answer, e')) :
    answer ≠ some true ∧ e'.schema = e.schema ∨
      answer = some true ∧ e.schema.Gets name type settings e'.schema := by
  rw [EditStep.result, EditStep.run, Edit.add_apply] at h
  -- an addition that fails leaves the schema as it is, and so does one that finds the name there
  cases hadd : e.schema.add name type settings with
  | error f =>
    rw [hadd] at h
    cases h
    exact .inl ⟨by simp, rfl⟩
  | ok r =>
    obtain ⟨isAdded, s⟩ := r
    rw [hadd] at h
    cases h
    rcases Schema.add_cases hadd with ⟨rfl, rfl⟩ | ⟨rfl, hgets⟩
    · exact .inl ⟨by simp, rfl⟩
    · exact .inr ⟨rfl, hgets⟩

/-- **A step keeps the accounts.** -/
theorem Schema.Accounts.step {loaded : Names} {log : History} {e : Editing} (step : EditStep)
    (h : e.schema.Accounts loaded log) :
    (step.result e).2.schema.Accounts loaded (log ++ [(step, (step.result e).1)]) := by
  generalize hresult : step.result e = r
  obtain ⟨answer, e'⟩ := r
  cases step with
  | add name type settings =>
    rcases Edit.add_cases hresult with ⟨hanswer, hsame⟩ | ⟨rfl, hgets⟩
    · refine h.of_same (by rw [hsame]) (by rw [hsame]) ?_ rfl
      -- no field was added, so the step answered something else or nothing
      match answer, hanswer with
      | none, _ => rfl
      | some false, _ => rfl
      | some true, hanswer => exact absurd rfl hanswer
    · exact h.of_gets hgets
  | save =>
    rcases Edit.save_cases hresult with ⟨rfl, hsame⟩ | ⟨rfl, hprinted⟩ | ⟨rfl, hread⟩
    · exact h.of_same (by rw [hsame]) (by rw [hsame]) rfl rfl
    · exact h.of_same (by rw [hprinted]; rfl) (by rw [hprinted]; rfl) rfl rfl
    · obtain ⟨-, hdeclared, hpending, -⟩ := Schema.readBack_eq_ok hread
      exact h.of_written hdeclared hpending

/-- What was pending once is accounted for after all steps. -/
private theorem Schema.Accounts.after {loaded : Names} {log : History} {e : Editing}
    (h : e.schema.Accounts loaded log) (steps : List EditStep) :
    (e.after steps).schema.Accounts loaded (log ++ e.answers steps) := by
  -- by induction on the steps, with the log of those that were made before
  induction steps generalizing e log with
  | nil =>
    rw [Editing.answers, List.append_nil]
    exact h
  | cons step steps ih =>
    have hrest := ih (h.step step)
    rwa [List.append_assoc] at hrest

/-! ### The keys of the module -/

/-- **What is printed of a module is read as one with the same keys**, if it is read as one at all. -/
def Script.Module.Rereads (m : Module) : Prop :=
  ∀ m', Module.parse m.dialect m.print.1 = .ok m' → m'.keys = m.keys

/-- Wherever a field was added, the library went by an identifier. -/
def History.NamesLibrary (log : History) : Prop :=
  ∀ name type settings, (.add name type settings, some true) ∈ log → IsName settings.space

/-- Whatever is saved on the way is read again with the same keys. -/
def Editing.RereadsAll (e : Editing) (steps : List EditStep) : Prop :=
  ∀ before behind, steps = before ++ .save :: behind → (e.after before).schema.module.Rereads

/-- A module whose keys are found in what is printed of it is read with the same keys. -/
theorem Script.Module.rereads_of_any {m : Module}
    (h : (Module.parse m.dialect m.print.1).toOption.any (fun m' => m'.keys.toList == m.keys.toList) =
      true) : m.Rereads := by
  intro m' hm'
  obtain ⟨m'', hm'', hkeys⟩ := exists_ok_of_any h
  cases hm'.symm.trans hm''
  have hlist : m'.keys.toList = m.keys.toList := eq_of_beq hkeys
  exact Names.ext fun x => by rw [Names.mem_iff, Names.mem_iff, hlist]

/-- If only the last step saves, only what it saves has to be read again. -/
theorem Editing.rereadsAll_of_last {e : Editing} {steps : List EditStep} (hsteps : .save ∉ steps)
    (h : (e.after steps).schema.module.Rereads) : e.RereadsAll (steps ++ [.save]) := by
  intro before behind hsplit
  -- the step that saves is the last one, for it is none of the others
  rcases List.append_eq_append_iff.1 hsplit with ⟨more, rfl, hlast⟩ | ⟨more, rfl, hlast⟩
  · cases more with
    | nil => rwa [List.append_nil]
    | cons step more => simp at hlast
  · cases more with
    | nil => rwa [List.append_nil] at h
    | cons step more =>
      obtain rfl : step = .save := (List.cons.inj hlast).1.symm
      exact absurd (List.mem_append_right _ (List.mem_cons_self ..)) hsteps

/-- **A step keeps the names that are declared and the keys of the module the same.** -/
private theorem keys_step {e : Editing} (step : EditStep) (h : e.schema.declared = e.schema.module.keys)
    (hlibrary : History.NamesLibrary [(step, (step.result e).1)])
    (hread : step = .save → e.schema.module.Rereads) :
    (step.result e).2.schema.declared = (step.result e).2.schema.module.keys := by
  generalize hresult : step.result e = r at hlibrary ⊢
  obtain ⟨answer, e'⟩ := r
  cases step with
  | add name type settings =>
    rcases Edit.add_cases hresult with ⟨-, hsame⟩ | ⟨rfl, hgets⟩
    · rw [hsame]
      exact h
    · -- the name goes into the set, and the field brings the same key into the module
      have hspace : IsName settings.space := hlibrary name type settings (.head _)
      refine Names.ext fun x => ?_
      rw [hgets.declared, Names.mem_insert, hgets.keys hspace, h, or_comm]
  | save =>
    rcases Edit.save_cases hresult with ⟨-, hsame⟩ | ⟨-, hprinted⟩ | ⟨-, hback⟩
    · rw [hsame]
      exact h
    · rw [hprinted]
      exact h
    · obtain ⟨-, hdeclared, -, hparse⟩ := Schema.readBack_eq_ok hback
      -- what was written is read with the keys that it had, and the set is left as it was
      rw [hdeclared, hread rfl _ hparse]
      exact h

/-- They stay the same after all steps. -/
theorem keys_after {e : Editing} (steps : List EditStep)
    (h : e.schema.declared = e.schema.module.keys) (hlibrary : (e.answers steps).NamesLibrary)
    (hread : e.RereadsAll steps) :
    (e.after steps).schema.declared = (e.after steps).schema.module.keys := by
  induction steps generalizing e with
  | nil => exact h
  | cons step steps ih =>
    -- what is asked of all steps is asked of the first one and of those that follow it
    refine ih (keys_step step h ?_ ?_) ?_ ?_
    · intro name type settings hmem
      refine hlibrary name type settings ?_
      rw [List.mem_singleton.1 hmem]
      exact .head _
    · rintro rfl
      exact hread [] steps rfl
    · exact fun name type settings hmem => hlibrary name type settings (.tail _ hmem)
    · rintro before behind rfl
      exact hread (step :: before) behind rfl

/-! ### After all steps -/

/-- **What is known of a schema after some steps of editing.** -/
structure Editing.Accounted (e : Editing) (steps : List EditStep) : Prop where
  /-- The names that are declared are those of the beginning and those that were added. -/
  declared : ∀ x, x ∈ (e.after steps).schema.declared ↔
    x ∈ e.schema.declared ∨ x ∈ (e.answers steps).added
  /-- No name was added twice. -/
  once : (e.answers steps).added.Nodup
  /-- No name waits twice. -/
  pending_nodup : (e.after steps).schema.pending.Nodup
  /-- No name waits that was declared at the beginning. -/
  pending_new : ∀ x ∈ (e.after steps).schema.pending, x ∉ e.schema.declared
  /-- Nothing waits just if nothing was added since the schema was written, or ever. -/
  pending_eq_nil : (e.after steps).schema.pending = [] ↔ (e.answers steps).sinceWritten.added = []
  /-- The names that are declared are the keys of the module, if the library always goes by an
  identifier and what is written is read with the keys that it was written with. -/
  keys : (e.answers steps).NamesLibrary → e.RereadsAll steps →
    (e.after steps).schema.declared = (e.after steps).schema.module.keys

/-- **A schema that has been loaded is accounted for after any steps of editing.** -/
theorem declared_after {e : Editing} {path source : String}
    (hload : Schema.parse path source = .ok e.schema) (steps : List EditStep) : e.Accounted steps := by
  obtain ⟨m, -, hs⟩ := except_bind_eq_ok_iff.1 hload
  have hschema : e.schema = { path := path, module := m, declared := m.keys } :=
    (Except.ok.inj hs).symm
  have hkeys : e.schema.declared = e.schema.module.keys := by rw [hschema]
  -- at the beginning nothing has been added, and nothing waits
  have hstart : e.schema.Accounts e.schema.declared [] := by
    refine ⟨fun x => ?_, .nil, fun x hx => (nomatch hx), ?_⟩
    · exact (or_iff_left (fun hx => nomatch hx)).symm
    · rw [hschema]
      rfl
  have haccounts := hstart.after steps
  rw [List.nil_append] at haccounts
  refine ⟨haccounts.declared, haccounts.once, ?_, ?_, ?_, keys_after steps hkeys⟩
  · rw [haccounts.pending]
    exact haccounts.once.sublist History.added_sinceWritten_sublist
  · intro x hx
    rw [haccounts.pending] at hx
    exact haccounts.fresh x (History.added_sinceWritten_sublist.subset hx)
  · rw [haccounts.pending]

/-- A schema without fields. -/
def bareText : String := "const serverSchema = z.object(\x7b\x7d)"

/-- A session with that schema in a file. -/
def bareSession : Session where
  tree := Files.Tree.empty.withFile ["schema.mjs"] (.text bareText)

/-- A variable that is added twice. -/
def addedTwice : List EditStep := [.add "PORT" .number {}, .add "PORT" .text {}]

/-- What these steps answer: the second one has nothing to add. -/
def answeredOnce : History := [(.add "PORT" .number {}, some true), (.add "PORT" .text {}, some false)]

/-- In these steps the library goes by its usual name. -/
theorem namesLibrary_answeredOnce : answeredOnce.NamesLibrary := by
  intro name type settings hmem
  rcases List.mem_cons.1 hmem with heq | hmem
  · cases heq
    exact isName_z
  · simp at hmem

set_option maxRecDepth 20000 in
/-- These steps, and then the schema is written. -/
theorem bare_addedTwice : ∃ s, Schema.load bareSession.tree "/schema.mjs" = .ok s ∧
    Schema.parse "/schema.mjs" bareText = .ok s ∧
    Editing.answers ⟨bareSession, s⟩ addedTwice = answeredOnce ∧
    (EditStep.save.result (Editing.after ⟨bareSession, s⟩ addedTwice)).1 = some true ∧
    Editing.RereadsAll ⟨bareSession, s⟩ (addedTwice ++ [.save]) := by
  have hrun : (Schema.parse "/schema.mjs" bareText).toOption.any (fun s =>
      let e := Editing.after ⟨bareSession, s⟩ addedTwice
      (Editing.answers ⟨bareSession, s⟩ addedTwice == answeredOnce &&
        (EditStep.save.result e).1 == some true) &&
        (Module.parse e.schema.module.dialect e.schema.module.print.1).toOption.any fun m' =>
          m'.keys.toList == e.schema.module.keys.toList) = true := by decide +kernel
  obtain ⟨s, hparse, htest⟩ := exists_ok_of_any hrun
  obtain ⟨htest, hread⟩ := Bool.and_eq_true_iff.1 htest
  obtain ⟨hanswers, hsaved⟩ := Bool.and_eq_true_iff.1 htest
  refine ⟨s, ?_, hparse, eq_of_beq hanswers, eq_of_beq hsaved, ?_⟩
  · have htext : (bareSession.tree.readText "/schema.mjs").toOption.any (· == bareText) = true := by
      decide +kernel
    obtain ⟨text, hread, hsame⟩ := exists_ok_of_any htext
    obtain rfl : text = bareText := eq_of_beq hsame
    exact except_bind_eq_ok_iff.2 ⟨bareText, mapError_eq_ok_iff.2 hread, by rw [hparse]; rfl⟩
  · exact Editing.rereadsAll_of_last (by decide) (Module.rereads_of_any hread)

/-- The accounts of that schema after these steps and saving, with the keys of what is read again. -/
theorem declared_after_addedTwice :
    ∃ s, Schema.parse "/schema.mjs" bareText = .ok s ∧
      Editing.Accounted ⟨bareSession, s⟩ (addedTwice ++ [.save]) ∧
      (Editing.after ⟨bareSession, s⟩ (addedTwice ++ [.save])).schema.declared =
        (Editing.after ⟨bareSession, s⟩ (addedTwice ++ [.save])).schema.module.keys := by
  obtain ⟨s, -, hparse, hanswers, hsaved, hread⟩ := bare_addedTwice
  have haccounted := declared_after (e := ⟨bareSession, s⟩) hparse (addedTwice ++ [.save])
  refine ⟨s, hparse, haccounted, haccounted.keys ?_ hread⟩
  intro name type settings hmem
  rw [Editing.answers_append, hanswers, List.mem_append] at hmem
  rcases hmem with hmem | hmem
  · exact namesLibrary_answeredOnce name type settings hmem
  · cases List.mem_singleton.1 hmem

/-! ### A library that goes by no identifier -/

/-- A schema in whose only function the library goes by a word that is spelt with escapes. -/
def escapedText : String :=
  "const f = <T,>() => \x7b const s = z\\u0028\\u007ba\\u003a1\\u007d\\u0029.object(\x7b\x7d) \x7d"

/-- The word that these escapes stand for, as the name of the library. -/
def escapedSettings : SchemaSettings := { object := "s", space := "z(\x7ba:1\x7d)" }

/-- A field that is added to that schema. -/
def addedOnce : List EditStep := [.add "KEY" .text escapedSettings]

set_option maxRecDepth 20000 in
/-- **A library that goes by no identifier** brings a key into the module that is not declared. -/
theorem declared_ne_keys :
    ∃ s, Schema.parse "/schema.ts" escapedText = .ok s ∧
      Editing.RereadsAll ⟨{ tree := .empty }, s⟩ addedOnce ∧
      (Editing.after ⟨{ tree := .empty }, s⟩ addedOnce).schema.declared ≠
        (Editing.after ⟨{ tree := .empty }, s⟩ addedOnce).schema.module.keys := by
  have hrun : (Schema.parse "/schema.ts" escapedText).toOption.any (fun s =>
      let s' := (Editing.after ⟨{ tree := .empty }, s⟩ addedOnce).schema
      s'.declared.toList == ["KEY"] && s'.module.keys.toList == ["KEY", "a"]) = true := by
    decide +kernel
  obtain ⟨s, hload, htest⟩ := exists_ok_of_any hrun
  obtain ⟨hdeclared, hkeys⟩ := Bool.and_eq_true_iff.1 htest
  refine ⟨s, hload, ?_, fun hsame => ?_⟩
  · -- no step saves, so nothing is read again
    intro before behind hsteps
    have hmem : EditStep.save ∈ addedOnce := by
      rw [hsteps]
      simp
    exact absurd hmem (by decide)
  · have hlists := (eq_of_beq hdeclared).symm.trans
      ((congrArg Names.toList hsame).trans (eq_of_beq hkeys))
    exact absurd hlists (by decide)

end EnvSchema
