import EnvSchema.Proofs.Offering

/-!
# Where offers stop

An offer may come to nothing: a question is refused, or the field cannot be added. Then the questions
have been asked all the same, nothing is asked afterwards, and neither the files nor the schema are
other ones than before that offer.

* `Stops` — what an offer stops at, with the questions that it has asked by then;
* `Editing.asking` — a state with more questions asked, and nothing else changed;
* `offer_eq_error` — an offer that fails has stopped;
* `exists_stops_of_offerAll` — offers that fail have gone on up to one that stops.
-/

namespace EnvSchema

variable {p : Prompter} {settings : SchemaSettings} {name : String} {names : List String}
  {questions : List Question} {e e' : Editing} {f : Failure}

/-- **What the offer of a name stops at**, with the questions about the name and the failure. -/
inductive Stops (p : Prompter) (settings : SchemaSettings) (name : String) (e : Editing) :
    List Question → Failure → Prop
  /-- It is not said whether the name is to be added. -/
  | unconfirmed {refusal : Refusal} (hconfirm : p.confirm e.session.asked name = .error refusal) :
      Stops p settings name e [.confirm name] (.refused refusal)
  /-- The name is to be added, but it is not said with which type. -/
  | unpicked {refusal : Refusal} (hconfirm : p.confirm e.session.asked name = .ok true)
      (hpick : p.pick (e.session.asked ++ [.confirm name]) name (ranked name) = .error refusal) :
      Stops p settings name e [.confirm name, .pick name (ranked name)] (.refused refusal)
  /-- All is said, but the field cannot be added. -/
  | unadded {type : FieldType} {fault : AddFault}
      (hreply : p.reply e.session.asked name = .ok (.typed type)) (htype : type ≠ .other)
      (hadd : e.schema.add name type settings = .error fault) :
      Stops p settings name e [.confirm name, .pick name (ranked name)] (Edit.ofAddFault fault)

/-- **A state in which more has been asked.** -/
def Editing.asking (e : Editing) (questions : List Question) : Editing :=
  { e with session := { e.session with asked := e.session.asked ++ questions } }

/-- An offer that stops has been made. -/
theorem Stops.confirm_prefix (h : Stops p settings name e questions f) :
    [.confirm name] <+: questions := by
  cases h with
  | unconfirmed => exact List.prefix_rfl
  | unpicked => exact List.prefix_append [_] [_]
  | unadded => exact List.prefix_append [_] [_]

/-- **An offer that fails** has stopped, and nothing but its questions is left of it. -/
theorem offer_eq_error (h : offer p settings name e = .error f e') :
    ∃ questions, Stops p settings name e questions f ∧ e' = e.asking questions := by
  have hasked : e.session.asked ++ [.confirm name] ++ [.pick name (ranked name)] =
      e.session.asked ++ [.confirm name, .pick name (ranked name)] := List.append_assoc ..
  -- the three steps of an offer, each of which may be the one that fails
  rcases bind_eq_error_iff.1 h with hconfirm | ⟨wanted, e₁, hconfirm, h⟩
  · obtain ⟨s, hs, rfl⟩ := Edit.lift_eq_error_iff.1 hconfirm
    obtain ⟨⟨refusal, hrefusal, rfl⟩, rfl⟩ := Run.confirm_eq_error_iff.1 hs
    exact ⟨_, .unconfirmed hrefusal, rfl⟩
  obtain ⟨s, hs, rfl⟩ := Edit.lift_eq_ok_iff.1 hconfirm
  obtain ⟨hwanted, rfl⟩ := Run.confirm_eq_ok_iff.1 hs
  cases wanted with
  | false => exact nomatch h
  | true =>
    rcases bind_eq_error_iff.1 h with hpick | ⟨type, e₂, hpick, h⟩
    · obtain ⟨s, hs, rfl⟩ := Edit.lift_eq_error_iff.1 hpick
      obtain ⟨⟨refusal, hrefusal, rfl⟩, rfl⟩ := Run.pick_eq_error_iff.1 hs
      refine ⟨_, .unpicked hwanted hrefusal, ?_⟩
      rw [Editing.asking, hasked]
    obtain ⟨s, hs, rfl⟩ := Edit.lift_eq_ok_iff.1 hpick
    obtain ⟨htype, rfl⟩ := Run.pick_eq_ok_iff.1 hs
    by_cases hother : type = .other
    · rw [if_pos hother] at h
      exact nomatch h
    · -- the field cannot be added, which is found out after both questions
      rw [if_neg hother] at h
      obtain ⟨fault, hadd, rfl, rfl⟩ := Edit.add_eq_error_iff.1 h
      refine ⟨_, .unadded (Prompter.reply_typed hwanted htype) hother hadd, ?_⟩
      rw [Editing.asking, hasked]

/-- **Offers that fail** have gone on without a failure up to one that stops. -/
theorem exists_stops_of_offerAll (h : offerAll p settings names e = .error f e') :
    ∃ done name rest added e₁ questions, names = done ++ name :: rest ∧
      offerAll p settings done e = .ok added e₁ ∧ Stops p settings name e₁ questions f ∧
      e' = e₁.asking questions := by
  -- by induction on the names: the first one stops, or it is one of those before the one that does
  induction names generalizing e with
  | nil => exact nomatch h
  | cons n ns ih =>
    rcases bind_eq_error_iff.1 h with hoffer | ⟨isAdded, e₂, hoffer, h⟩
    · obtain ⟨questions, hstops, rfl⟩ := offer_eq_error hoffer
      exact ⟨[], n, ns, [], e, questions, rfl, rfl, hstops, rfl⟩
    · rcases bind_eq_error_iff.1 h with hrest | ⟨_, _, -, h⟩
      · obtain ⟨done, name, rest, added, e₁, questions, rfl, hdone, hstops, rfl⟩ := ih hrest
        refine ⟨n :: done, name, rest, if isAdded then n :: added else added, e₁, questions, rfl, ?_,
          hstops, rfl⟩
        exact (bind_of_ok hoffer).trans (bind_of_ok hdone)
      · exact nomatch h

end EnvSchema
