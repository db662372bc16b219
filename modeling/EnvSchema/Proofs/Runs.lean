import EnvSchema.Schema.Editing
import EnvSchema.Proofs.Steps

/-!
# Runs on files

What the steps do that runs are made of:

* `Run.look_apply`, `Run.change_apply` — asking the files, and changing them;
* `Run.look_decides` — what the files answer decides what is asked of them;
* `Run.confirm_eq_ok_iff`, `Run.confirm_eq_error_iff`, … — questions, and that they are remembered
  whatever the answer is;
* `Edit.lift_apply`, `Edit.lift_eq_ok_iff`, `Keeps.lift` — a run without a schema as a part of one
  with a schema.
-/

namespace EnvSchema

variable {α : Type}

namespace Run

/-- A result as a run answers as the result does, and changes nothing. -/
theorem ofExcept_apply (r : Except Failure α) (s : Session) :
    ofExcept r s = match r with
      | .ok a => .ok a s
      | .error f => .error f s := by
  cases r <;> rfl

/-- What the files are asked for does not change them. -/
theorem look_apply (f : Files.Tree → Except Failure α) (s : Session) :
    look f s = match f s.tree with
      | .ok a => .ok a s
      | .error e => .error e s :=
  ofExcept_apply (f s.tree) s

theorem ofExcept_eq_ok_iff {r : Except Failure α} {s s' : Session} {a : α} :
    ofExcept r s = .ok a s' ↔ r = .ok a ∧ s' = s := by
  rw [ofExcept_apply]
  cases r <;> simp [eq_comm]

theorem ofExcept_eq_error_iff {r : Except Failure α} {s s' : Session} {f : Failure} :
    ofExcept r s = .error f s' ↔ r = .error f ∧ s' = s := by
  rw [ofExcept_apply]
  cases r <;> simp [eq_comm]

theorem look_eq_ok_iff {f : Files.Tree → Except Failure α} {s s' : Session} {a : α} :
    look f s = .ok a s' ↔ f s.tree = .ok a ∧ s' = s :=
  ofExcept_eq_ok_iff

theorem look_eq_error_iff {f : Files.Tree → Except Failure α} {s s' : Session} {e : Failure} :
    look f s = .error e s' ↔ f s.tree = .error e ∧ s' = s :=
  ofExcept_eq_error_iff

/-- The files are changed as asked for, if that can be done. -/
theorem change_apply (f : Files.Tree → Except Failure Files.Tree) (s : Session) :
    change f s = match f s.tree with
      | .ok t => .ok () { s with tree := t }
      | .error e => .error e s := by
  unfold change
  cases h : f s.tree with
  | ok t => exact bind_of_ok (look_eq_ok_iff.2 ⟨h, rfl⟩)
  | error e => exact bind_of_error (look_eq_error_iff.2 ⟨h, rfl⟩)

/-! ### Questions -/

/-- **A question** is one of those that have been asked from then on. What comes of it is what its user
answers, who hears it and all that were asked before. -/
private theorem ask_apply (question : Question) (answer : List Question → Except Refusal α)
    (s : Session) :
    (do
      let before := (← get).asked
      modify fun s => { s with asked := before ++ [question] }
      answered (answer before) : Run α) s =
      ofExcept ((answer s.asked).mapError Failure.refused) { s with asked := s.asked ++ [question] } := by
  have hget : (get : Run Session) s = .ok s s := rfl
  have hmodify : (modify fun t => { t with asked := s.asked ++ [question] } : Run PUnit) s =
      .ok ⟨⟩ { s with asked := s.asked ++ [question] } := rfl
  rw [bind_of_ok hget, bind_of_ok hmodify, answered]

variable {p : Prompter} {name : String} {s s' : Session}

/-- What comes of asking whether a variable is to be added. -/
theorem confirm_apply : confirm p name s =
    ofExcept ((p.confirm s.asked name).mapError Failure.refused)
      { s with asked := s.asked ++ [.confirm name] } :=
  ask_apply (.confirm name) (fun before => p.confirm before name) s

/-- What comes of asking for a type. -/
theorem pick_apply {choices : List FieldType} : pick p name choices s =
    ofExcept ((p.pick s.asked name choices).mapError Failure.refused)
      { s with asked := s.asked ++ [.pick name choices] } :=
  ask_apply (.pick name choices) (fun before => p.pick before name choices) s

theorem confirm_eq_ok_iff {wanted : Bool} :
    confirm p name s = .ok wanted s' ↔
      p.confirm s.asked name = .ok wanted ∧ s' = { s with asked := s.asked ++ [.confirm name] } := by
  rw [confirm_apply, ofExcept_eq_ok_iff, mapError_eq_ok_iff]

theorem pick_eq_ok_iff {choices : List FieldType} {type : FieldType} :
    pick p name choices s = .ok type s' ↔
      p.pick s.asked name choices = .ok type ∧
        s' = { s with asked := s.asked ++ [.pick name choices] } := by
  rw [pick_apply, ofExcept_eq_ok_iff, mapError_eq_ok_iff]

/-- Asking that fails has been refused, and the question has been asked all the same. -/
theorem confirm_eq_error_iff {f : Failure} :
    confirm p name s = .error f s' ↔
      (∃ refusal, p.confirm s.asked name = .error refusal ∧ .refused refusal = f) ∧
        s' = { s with asked := s.asked ++ [.confirm name] } := by
  rw [confirm_apply, ofExcept_eq_error_iff, mapError_eq_error_iff]

theorem pick_eq_error_iff {choices : List FieldType} {f : Failure} :
    pick p name choices s = .error f s' ↔
      (∃ refusal, p.pick s.asked name choices = .error refusal ∧ .refused refusal = f) ∧
        s' = { s with asked := s.asked ++ [.pick name choices] } := by
  rw [pick_apply, ofExcept_eq_error_iff, mapError_eq_error_iff]

end Run

/-- A run that leaves the schema alone, as a part of one with a schema. -/
theorem Edit.lift_apply (run : Run α) (e : Editing) :
    (liftM run : Edit α) e =
      match run e.session with
      | .ok a s => .ok a { e with session := s }
      | .error f s => .error f { e with session := s } :=
  rfl

/-- What such a part answers, and that it leaves the schema alone. -/
theorem Edit.lift_eq_ok_iff {run : Run α} {e e' : Editing} {a : α} :
    (liftM run : Edit α) e = .ok a e' ↔
      ∃ s, run e.session = .ok a s ∧ e' = { e with session := s } := by
  rw [Edit.lift_apply]
  cases run e.session <;> simp [eq_comm, and_assoc]

theorem Edit.lift_eq_error_iff {run : Run α} {e e' : Editing} {f : Failure} :
    (liftM run : Edit α) e = .error f e' ↔
      ∃ s, run e.session = .error f s ∧ e' = { e with session := s } := by
  rw [Edit.lift_apply]
  cases run e.session <;> simp [eq_comm, and_assoc]

/-- What the files are asked for in a run with a schema changes nothing. -/
theorem Edit.look_eq_ok_iff {f : Files.Tree → Except Failure α} {e e' : Editing} {a : α} :
    (liftM (Run.look f) : Edit α) e = .ok a e' ↔ f e.session.tree = .ok a ∧ e' = e := by
  rw [Edit.lift_eq_ok_iff]
  constructor
  · rintro ⟨s, hs, rfl⟩
    obtain ⟨ha, rfl⟩ := Run.look_eq_ok_iff.1 hs
    exact ⟨ha, rfl⟩
  · rintro ⟨ha, rfl⟩
    exact ⟨_, Run.look_eq_ok_iff.2 ⟨ha, rfl⟩, rfl⟩

/-- **What a run keeps of the session** it keeps as a part of one with a schema, and the schema as
well. -/
theorem Keeps.lift {γ : Type} {part : Session → γ} {run : Run α} (h : Keeps part run) :
    Keeps (fun e => (part e.session, e.schema)) (liftM run : Edit α) where
  ok := by
    intro e a e' ha
    obtain ⟨s, hs, rfl⟩ := Edit.lift_eq_ok_iff.1 ha
    exact congrArg (·, e.schema) (h.ok hs)
  error := by
    intro e f e' hf
    obtain ⟨s, hs, rfl⟩ := Edit.lift_eq_error_iff.1 hf
    exact congrArg (·, e.schema) (h.error hs)

/-- What the files are asked for is decided by the files. -/
theorem Run.look_decides (f : Files.Tree → Except Failure α) (s : Session) :
    Decides (f s.tree) (look f) s fun s' => s'.tree = s.tree := by
  unfold Decides
  cases h : f s.tree with
  | ok a => exact ⟨s, look_eq_ok_iff.2 ⟨h, rfl⟩, rfl⟩
  | error e => exact ⟨s, look_eq_error_iff.2 ⟨h, rfl⟩⟩

end EnvSchema
