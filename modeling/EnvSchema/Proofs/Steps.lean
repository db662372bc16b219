/-!
# Steps and runs

A step answers or fails, and leaves a state in both cases. What the two halves of a run do is what
the whole of it does:

* `bind_eq_ok_iff`, `bind_eq_error_iff` — a run of two steps answers if both do, and fails if one of
  them does;
* `mapM_eq_ok`, `mem_mapM`, `mapM_eq_error_iff` — the same of a step for each element of a list;
* `Answers` — a step that answers, with what it answers and leaves;
* `Decides` — a result that a step answers or fails with, whatever else it does;
* `Keeps` — a step that leaves a part of the state as it is, whether it answers or fails;
* `outcome`, `leftBy` — what comes of a step, and the state that it leaves;
* `Leads` — a step that leads from a state to related ones only, whether it answers or fails.

Each of the four notions holds of a run of two steps if it holds of both (`Answers.bind`,
`Decides.bind`, `Keeps.bind`, `Leads.bind`).
-/

namespace EnvSchema

variable {ε σ α β γ : Type}

/-! ### Two steps -/

/-- A run of two steps answers if both of them do. -/
theorem bind_eq_ok_iff {step : EStateM ε σ α} {next : α → EStateM ε σ β} {s s' : σ} {b : β} :
    (step >>= next) s = .ok b s' ↔ ∃ a t, step s = .ok a t ∧ next a t = .ok b s' := by
  change EStateM.bind step next s = _ ↔ _
  unfold EStateM.bind
  cases step s <;> simp [and_assoc]

/-- A run of two steps fails if the first one does, or the second one after it. -/
theorem bind_eq_error_iff {step : EStateM ε σ α} {next : α → EStateM ε σ β} {s s' : σ} {e : ε} :
    (step >>= next) s = .error e s' ↔
      step s = .error e s' ∨ ∃ a t, step s = .ok a t ∧ next a t = .error e s' := by
  change EStateM.bind step next s = _ ↔ _
  unfold EStateM.bind
  cases step s <;> simp [and_assoc]

/-- A step that answers is followed by the next one. -/
theorem bind_of_ok {step : EStateM ε σ α} {next : α → EStateM ε σ β} {s t : σ} {a : α}
    (h : step s = .ok a t) : (step >>= next) s = next a t := by
  change EStateM.bind step next s = _
  rw [EStateM.bind, h]

/-- A step that fails is followed by nothing. -/
theorem bind_of_error {step : EStateM ε σ α} {next : α → EStateM ε σ β} {s t : σ} {e : ε}
    (h : step s = .error e t) : (step >>= next) s = .error e t := by
  change EStateM.bind step next s = _
  rw [EStateM.bind, h]

/-- A result answers if both of the steps that it is made in do. -/
theorem except_bind_eq_ok_iff {r : Except ε α} {next : α → Except ε β} {b : β} :
    (r >>= next) = .ok b ↔ ∃ a, r = .ok a ∧ next a = .ok b := by
  cases r <;> simp [bind, Except.bind]

/-- A result fails if the first step that it is made in does, or the second one after it. -/
theorem except_bind_eq_error_iff {r : Except ε α} {next : α → Except ε β} {e : ε} :
    (r >>= next) = .error e ↔ r = .error e ∨ ∃ a, r = .ok a ∧ next a = .error e := by
  cases r <;> simp [bind, Except.bind]

/-- What a result is mapped to answers just what it answers. -/
theorem mapError_eq_ok_iff {δ : Type} {f : ε → δ} {r : Except ε α} {a : α} :
    r.mapError f = .ok a ↔ r = .ok a := by
  cases r with
  | ok b =>
    constructor <;> intro h <;> exact congrArg Except.ok (Except.ok.inj h)
  | error e => constructor <;> intro h <;> cases h

/-- What a result is mapped to fails just if it fails. -/
theorem mapError_eq_error_iff {δ : Type} {f : ε → δ} {r : Except ε α} {e : δ} :
    r.mapError f = .error e ↔ ∃ e', r = .error e' ∧ f e' = e := by
  cases r with
  | ok a =>
    constructor
    · intro h
      cases h
    · rintro ⟨e', h, -⟩
      cases h
  | error e' =>
    constructor
    · intro h
      exact ⟨e', rfl, Except.error.inj h⟩
    · rintro ⟨e'', h, hsame⟩
      cases h
      exact congrArg Except.error hsame

/-- A result of which a test can be made answers, and the test holds of the answer. -/
theorem exists_ok_of_any {r : Except ε α} {test : α → Bool} (h : r.toOption.any test = true) :
    ∃ a, r = .ok a ∧ test a = true := by
  cases r with
  | ok a => exact ⟨a, rfl, h⟩
  | error e => cases h

/-! ### Steps for the elements of a list -/

/-- What a step answers for all members of a list it answers for the list. -/
theorem mapM_eq_ok {f : α → Except ε β} {g : α → β} {l : List α}
    (h : ∀ a ∈ l, f a = .ok (g a)) : l.mapM f = .ok (l.map g) := by
  induction l with
  | nil => rfl
  | cons a l ih =>
    obtain ⟨ha, hl⟩ := List.forall_mem_cons.1 h
    rw [List.mapM_cons, ha, ih hl]
    rfl

/-- A list is gone through alike by steps that do the same with its members. -/
theorem mapM_eq_mapM {f g : α → Except ε β} {l : List α}
    (h : ∀ a ∈ l, f a = g a) : l.mapM f = l.mapM g := by
  induction l with
  | nil => rfl
  | cons a l ih =>
    obtain ⟨ha, hl⟩ := List.forall_mem_cons.1 h
    rw [List.mapM_cons, List.mapM_cons, ha, ih hl]

/-- What a step answers for the elements of a list is what it answers for the list. -/
theorem mem_mapM {f : α → Except ε β} {l : List α} {m : List β}
    (h : l.mapM f = .ok m) :
    (∀ a ∈ l, ∃ b ∈ m, f a = .ok b) ∧ ∀ b ∈ m, ∃ a ∈ l, f a = .ok b := by
  -- element by element, on both lists at once
  induction l generalizing m with
  | nil =>
    rw [List.mapM_nil] at h
    cases h
    simp
  | cons a l ih =>
    rw [List.mapM_cons] at h
    obtain ⟨b, hb, h⟩ := except_bind_eq_ok_iff.1 h
    obtain ⟨bs, hbs, h⟩ := except_bind_eq_ok_iff.1 h
    cases h
    obtain ⟨hl, hm⟩ := ih hbs
    refine ⟨?_, ?_⟩
    · simpa [hb] using fun x hx => .inr (hl x hx)
    · simpa [hb] using fun x hx => .inr (hm x hx)

/-- A step answers for a list if it answers for all elements. -/
theorem exists_mapM {f : α → Except ε β} {l : List α}
    (h : ∀ a ∈ l, ∃ b, f a = .ok b) : ∃ m, l.mapM f = .ok m := by
  induction l with
  | nil => exact ⟨[], rfl⟩
  | cons a l ih =>
    obtain ⟨⟨b, hb⟩, hl⟩ := List.forall_mem_cons.1 h
    obtain ⟨bs, hbs⟩ := ih hl
    refine ⟨b :: bs, ?_⟩
    rw [List.mapM_cons]
    exact except_bind_eq_ok_iff.2 ⟨b, hb, except_bind_eq_ok_iff.2 ⟨bs, hbs, rfl⟩⟩

/-- A step fails for a list just if it fails for the first element for which it does not answer. -/
theorem mapM_eq_error_iff {f : α → Except ε β} {l : List α} {e : ε} :
    l.mapM f = .error e ↔ ∃ before a behind, l = before ++ a :: behind ∧
      (∀ other ∈ before, ∃ b, f other = .ok b) ∧ f a = .error e := by
  induction l with
  | nil =>
    rw [List.mapM_nil]
    simp [pure, Except.pure]
  | cons first l ih =>
    rw [List.mapM_cons, except_bind_eq_error_iff]
    simp only [except_bind_eq_error_iff, ih]
    -- the list is divided at the first element that fails: this one, or one of those behind it
    constructor
    · rintro (hfirst | ⟨b, hb, ⟨before, a, behind, rfl, hbefore, ha⟩ | ⟨bs, -, h⟩⟩)
      · exact ⟨[], first, l, rfl, by simp, hfirst⟩
      · exact ⟨first :: before, a, behind, rfl, by simpa using ⟨⟨b, hb⟩, hbefore⟩, ha⟩
      · exact nomatch h
    · rintro ⟨before, a, behind, hl, hbefore, ha⟩
      cases before with
      | nil =>
        obtain ⟨rfl, rfl⟩ := List.cons.inj hl
        exact .inl ha
      | cons b before =>
        obtain ⟨rfl, rfl⟩ := List.cons.inj hl
        obtain ⟨⟨found, hfound⟩, hbefore⟩ := List.forall_mem_cons.1 hbefore
        exact .inr ⟨found, hfound, .inl ⟨before, a, behind, rfl, hbefore, ha⟩⟩

/-! ### What steps answer -/

/-- What a step answers and the state that it leaves, if it does not fail. -/
def outcome? (step : EStateM ε σ α) (s : σ) : Option (α × σ) :=
  match step s with
  | .ok a t => some (a, t)
  | .error _ _ => none

theorem outcome?_eq_some_iff {step : EStateM ε σ α} {s : σ} {r : α × σ} :
    outcome? step s = some r ↔ step s = .ok r.1 r.2 := by
  unfold outcome?
  cases step s <;> simp [Prod.ext_iff]

/-- **A step answers from a state on**, and what it answers and the state that it leaves are as
`post` says. -/
def Answers (step : EStateM ε σ α) (s : σ) (post : α → σ → Prop) : Prop :=
  ∃ a s', step s = .ok a s' ∧ post a s'

namespace Answers

variable {step : EStateM ε σ α} {s : σ} {post post' : α → σ → Prop}

theorem pure {a : α} (h : post a s) : Answers (pure a : EStateM ε σ α) s post := ⟨a, s, rfl, h⟩

/-- **Steps that answer** make a run that answers. -/
theorem bind {next : α → EStateM ε σ β} {q : β → σ → Prop} (h : Answers step s post)
    (hn : ∀ a s', post a s' → Answers (next a) s' q) : Answers (step >>= next) s q := by
  obtain ⟨a, s', hs, ha⟩ := h
  obtain ⟨b, t, ht, hb⟩ := hn a s' ha
  exact ⟨b, t, (bind_of_ok hs).trans ht, hb⟩

theorem mono (h : Answers step s post) (hp : ∀ a s', post a s' → post' a s') :
    Answers step s post' := by
  obtain ⟨a, s', hs, ha⟩ := h
  exact ⟨a, s', hs, hp a s' ha⟩

/-- A step of which it is known what it answers is followed by the next one. -/
theorem bind_eq {next : α → EStateM ε σ β} {q : β → σ → Prop} {a : α} {s' : σ}
    (h : step s = .ok a s') (hn : Answers (next a) s' q) : Answers (step >>= next) s q := by
  obtain ⟨b, t, ht, hb⟩ := hn
  exact ⟨b, t, (bind_of_ok h).trans ht, hb⟩

/-- What a step answers if there is one thing that it can answer. -/
theorem eq {a : α} {s' : σ} (h : Answers step s fun b t => b = a ∧ t = s') : step s = .ok a s' := by
  obtain ⟨_, _, hs, rfl, rfl⟩ := h
  exact hs

end Answers

/-! ### What decides a step -/

/-- **A result decides a step from a state on**: the step answers what the result does, and `after`
holds of the state that it leaves; or it fails as the result does. -/
def Decides (r : Except ε α) (step : EStateM ε σ α) (s : σ) (after : σ → Prop) : Prop :=
  match r with
  | .ok a => ∃ s', step s = .ok a s' ∧ after s'
  | .error e => ∃ s', step s = .error e s'

namespace Decides

variable {r : Except ε α} {step : EStateM ε σ α} {s : σ} {after afterwards : σ → Prop}

theorem pure {a : α} (h : after s) : Decides (.ok a : Except ε α) (pure a) s after := ⟨s, rfl, h⟩

/-- **Results that decide two steps** decide the run that is made of both. -/
theorem bind {f : α → Except ε β} {next : α → EStateM ε σ β} (h : Decides r step s after)
    (hn : ∀ a s', after s' → Decides (f a) (next a) s' afterwards) :
    Decides (r >>= f) (step >>= next) s afterwards := by
  cases r with
  | error e =>
    obtain ⟨s', hs⟩ := h
    exact ⟨s', bind_of_error hs⟩
  | ok a =>
    obtain ⟨s', hs, ha⟩ := h
    change Decides (f a) (step >>= next) s afterwards
    unfold Decides
    rw [bind_of_ok hs]
    exact hn a s' ha

/-- A step that always answers leaves the decision to the next one. -/
theorem bind_of_answers {a : α} {t : Except ε β} {next : α → EStateM ε σ β}
    (h : Decides (.ok a) step s after) (hn : ∀ s', after s' → Decides t (next a) s' afterwards) :
    Decides t (step >>= next) s afterwards := by
  obtain ⟨s', hs, ha⟩ := h
  unfold Decides
  rw [bind_of_ok hs]
  exact hn s' ha

/-- A step answers what the result that decides it does. -/
theorem answers_iff (h : Decides r step s after) {a : α} : (∃ s', step s = .ok a s') ↔ r = .ok a := by
  cases r with
  | error e =>
    obtain ⟨s', hs⟩ := h
    simp [hs]
  | ok b =>
    obtain ⟨s', hs, -⟩ := h
    simp [hs]

end Decides

/-! ### What steps keep -/

/-- **A step keeps a part of the state**, whether it answers or fails. -/
structure Keeps (part : σ → γ) (step : EStateM ε σ α) : Prop where
  ok : ∀ {s a s'}, step s = .ok a s' → part s' = part s
  error : ∀ {s e s'}, step s = .error e s' → part s' = part s

namespace Keeps

variable {part : σ → γ}

theorem pure (a : α) : Keeps part (pure a : EStateM ε σ α) where
  ok h := by cases h; rfl
  error h := nomatch h

theorem throw (e : ε) : Keeps part (throw e : EStateM ε σ α) where
  ok h := nomatch h
  error h := by cases h; rfl

theorem get : Keeps part (get : EStateM ε σ σ) where
  ok h := by cases h; rfl
  error h := nomatch h

theorem modify {f : σ → σ} (h : ∀ s, part (f s) = part s) :
    Keeps part (modify f : EStateM ε σ PUnit) where
  ok h' := by cases h'; exact h _
  error h' := nomatch h'

/-- What is made of a part is kept if the part is. -/
theorem map {δ : Type} {step : EStateM ε σ α} (h : Keeps part step) (f : γ → δ) :
    Keeps (fun s => f (part s)) step where
  ok ha := congrArg f (h.ok ha)
  error he := congrArg f (h.error he)

/-- **Steps that keep a part make a run that keeps it.** -/
theorem bind {step : EStateM ε σ α} {next : α → EStateM ε σ β} (h : Keeps part step)
    (hn : ∀ a, Keeps part (next a)) : Keeps part (step >>= next) where
  ok := by
    intro s b s' hb
    obtain ⟨a, t, ha, hb⟩ := bind_eq_ok_iff.1 hb
    exact ((hn a).ok hb).trans (h.ok ha)
  error := by
    intro s e s' he
    rcases bind_eq_error_iff.1 he with he | ⟨a, t, ha, he⟩
    · exact h.error he
    · exact ((hn a).error he).trans (h.ok ha)

end Keeps

/-! ### Where steps lead -/

/-- **What comes of a step**: what it answers, or what it fails with. -/
def outcome (step : EStateM ε σ α) (s : σ) : Except ε α :=
  match step s with
  | .ok a _ => .ok a
  | .error e _ => .error e

/-- **What a step leaves**, whether it answers or fails. -/
def leftBy (step : EStateM ε σ α) (s : σ) : σ :=
  match step s with
  | .ok _ t => t
  | .error _ t => t

section

variable {step : EStateM ε σ α} {next : α → EStateM ε σ β} {s t : σ} {a : α} {e : ε}

theorem outcome_of_ok (h : step s = .ok a t) : outcome step s = .ok a := by rw [outcome, h]

theorem outcome_of_error (h : step s = .error e t) : outcome step s = .error e := by rw [outcome, h]

/-- What comes of a step is what it answers if it does. -/
theorem outcome_eq_ok_iff : outcome step s = .ok a ↔ ∃ t, step s = .ok a t := by
  unfold outcome
  cases step s <;> simp

/-- What comes of a step is what it fails with if it does. -/
theorem outcome_eq_error_iff : outcome step s = .error e ↔ ∃ t, step s = .error e t := by
  unfold outcome
  cases step s <;> simp

/-- Behind a step that answers, there comes of a run what comes of the next step. -/
theorem outcome_bind_of_ok (h : step s = .ok a t) :
    outcome (step >>= next) s = outcome (next a) t := by
  rw [outcome, bind_of_ok h, outcome]

theorem leftBy_of_ok (h : step s = .ok a t) : leftBy step s = t := by rw [leftBy, h]

theorem leftBy_of_error (h : step s = .error e t) : leftBy step s = t := by rw [leftBy, h]

/-- Behind a step that answers, a run leaves what the next step does. -/
theorem leftBy_bind_of_ok (h : step s = .ok a t) : leftBy (step >>= next) s = leftBy (next a) t := by
  rw [leftBy, bind_of_ok h, leftBy]

/-- A run whose first step fails leaves what that step does. -/
theorem leftBy_bind_of_error (h : step s = .error e t) : leftBy (step >>= next) s = t :=
  leftBy_of_error (bind_of_error h)

end

/-- **A step leads along a relation**, whether it answers or fails. -/
def Leads (r : σ → σ → Prop) (step : EStateM ε σ α) : Prop := ∀ s, r s (leftBy step s)

namespace Leads

variable {r : σ → σ → Prop} {part : σ → γ} {step : EStateM ε σ α}

/-- What keeps a part of the state leads along a relation that hangs on this part alone. -/
theorem of_keeps (h : Keeps part step) (hr : ∀ s t, part t = part s → r s t) : Leads r step := by
  intro s
  cases hs : step s with
  | ok a t =>
    rw [leftBy_of_ok hs]
    exact hr s t (h.ok hs)
  | error e t =>
    rw [leftBy_of_error hs]
    exact hr s t (h.error hs)

/-- **Steps that lead along a relation make a run that does**, if the relation is transitive. -/
theorem bind (htrans : ∀ s t u, r s t → r t u → r s u) {next : α → EStateM ε σ β}
    (h : Leads r step) (hn : ∀ a, Leads r (next a)) : Leads r (step >>= next) := by
  intro s
  have hstep := h s
  cases hs : step s with
  | ok a t =>
    rw [leftBy_of_ok hs] at hstep
    rw [leftBy_bind_of_ok hs]
    exact htrans _ _ _ hstep (hn a t)
  | error e t =>
    rw [leftBy_of_error hs] at hstep
    rw [leftBy_bind_of_error hs]
    exact hstep

end Leads

end EnvSchema
