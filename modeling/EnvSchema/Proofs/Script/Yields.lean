import EnvSchema.Proofs.Steps
import EnvSchema.Script.Reader.Types

/-!
# What steps of reading answer

A step of reading answers or stops. Here a condition is put on what it answers, whatever state it
starts from; a step that stops fulfils every condition. What follows a branch is one local function,
which every branch calls: `extract_lets` names it, and what it yields is shown once, for any answer that
the branches may give it.

* `Yields` — a condition on whatever a step answers;
* `Yields.bind`, `Yields.after`, `Yields.give` — steps in a row, where the answer of the first one is
  as a condition says, does not matter or is known;
* `Yields.either`, `Yields.check` — a choice before a step, and a check that may stop;
* `Yields.ite`, `Yields.loop`, `Yields.mapM` — choices and repetitions;
* `Yields.within`, `Yields.outcome`, `Yields.attempt`, … — steps in other places and states.
-/

namespace EnvSchema.Script.Read

variable {α β γ : Type}

/-- **Whatever a step answers** is as a condition says. -/
def Yields (step : Read α) (p : α → Prop) : Prop := ∀ r a s, step r = .ok a s → p a

namespace Yields

variable {step : Read α} {p p' : α → Prop} {q : β → Prop} {next : α → Read β}

/-! ### Steps in a row -/

theorem pure {a : α} (h : p a) : Yields (pure a) p := by
  intro r b s hb
  cases hb
  exact h

theorem throw {d : Diagnostic} : Yields (throw d : Read α) p := by
  intro r a s h
  cases h

theorem fail {span : Span} {fault : Fault} : Yields (fail span fault : Read α) p := throw

/-- A condition that is met anyway. -/
theorem trivial : Yields step fun _ => True := fun _ _ _ _ => True.intro

theorem mono (h : Yields step p) (hp : ∀ a, p a → p' a) : Yields step p' :=
  fun r a s hs => hp a (h r a s hs)

/-- **Steps in a row.** -/
theorem bind (h : Yields step p) (hn : ∀ a, p a → Yields (next a) q) : Yields (step >>= next) q := by
  intro r b s hb
  obtain ⟨a, t, ha, hb⟩ := bind_eq_ok_iff.1 hb
  exact hn a (h r a t ha) t b s hb

/-- A step whose answer does not matter is followed by the next one. -/
theorem after (hn : ∀ a, Yields (next a) q) : Yields (step >>= next) q :=
  bind trivial fun a _ => hn a

/-- What is given to the next step. -/
theorem give {a : α} (h : Yields (next a) q) : Yields (Pure.pure a >>= next) q :=
  bind (p := (· = a)) (pure rfl) fun _ hb => hb ▸ h

/-- What is made of an answer. -/
theorem map {f : α → β} (h : Yields step p) (hf : ∀ a, p a → q (f a)) : Yields (f <$> step) q := by
  intro r b s hb
  rw [map_eq_pure_bind] at hb
  exact h.bind (fun a ha => pure (hf a ha)) r b s hb

/-- An answer that is there if the step answers. -/
theorem some_ (h : Yields step p) : Yields (some <$> step) fun o => ∀ a ∈ o, p a :=
  h.map fun _ ha _ hb => Option.some.inj hb ▸ ha

/-- The same as two steps in a row. -/
theorem thenSome (h : Yields step p) :
    Yields (step >>= fun a => Pure.pure (some a)) fun o => ∀ a ∈ o, p a :=
  h.bind fun _ ha => pure fun _ hb => Option.some.inj hb ▸ ha

/-! ### Choices and repetitions -/

theorem ite {c : Prop} {_ : Decidable c} {yes no : Read α} (hyes : Yields yes p) (hno : Yields no p) :
    Yields (if c then yes else no) p := by
  split
  · exact hyes
  · exact hno

/-- **A choice before a step** that takes what has been chosen. -/
theorem either {c : Prop} {_ : Decidable c} {yes no : Read α} {next : α → Read β} (p : α → Prop)
    (hyes : Yields yes p) (hno : Yields no p) (hn : ∀ a, p a → Yields (next a) q) :
    Yields (have k := next; if c then yes >>= k else no >>= k) q :=
  ite (bind hyes hn) (bind hno hn)

/-- A choice of something that does not matter. -/
theorem eitherWay {c : Prop} {_ : Decidable c} {yes no : Read α} {next : α → Read β}
    (hn : ∀ a, Yields (next a) q) : Yields (have k := next; if c then yes >>= k else no >>= k) q :=
  ite (after hn) (after hn)

/-- **A step behind a check**, which may stop and does nothing else. -/
theorem check {c : Prop} {_ : Decidable c} {test : Read Unit} {next : Unit → Read β}
    (hn : ∀ a, Yields (next a) q) : Yields (have k := next; if c then test >>= k else k ()) q :=
  ite (after hn) (hn ())

/-- A step behind a check that looks at something first. -/
theorem check₂ {c : Prop} {_ : Decidable c} {look : Read γ} {test : γ → Read Unit}
    {next : Unit → Read β} (hn : ∀ a, Yields (next a) q) :
    Yields (have k := next; if c then look >>= fun b => test b >>= k else k ()) q :=
  ite (after fun _ => after hn) (hn ())

/-- A step behind something that is reported and read, but not kept. -/
theorem skip {δ : Type} {c : Prop} {_ : Decidable c} {look : Read γ} {test : γ → Read Unit}
    {skipped : Read δ} {next : Unit → Read β} (hn : ∀ a, Yields (next a) q) :
    Yields (have k := next
      if c then look >>= fun b => test b >>= fun _ => skipped >>= fun _ => k () else k ()) q :=
  ite (after fun _ => after fun _ => after fun _ => hn ()) (hn ())

/-- **A loop** whose rounds keep a condition, and whose last one answers as another one says. -/
theorem loop {step : β → Read (β ⊕ γ)} {b : β} {p : γ → Prop} (q : β → Prop) (hb : q b)
    (h : ∀ b, q b → Yields (step b) (Sum.elim q p)) : Yields (loop b step) p := by
  have hiterate (n : Nat) : ∀ b, q b → Yields (iterate step n b) p := by
    induction n with
    | zero => exact fun b _ => after fun r => fail
    | succ n ih =>
      intro b hb
      refine bind (h b hb) fun a ha => ?_
      cases a with
      | inl b => exact ih b ha
      | inr c => exact pure ha
  exact after fun r => hiterate _ b hb

/-- What is answered for each member of a list. -/
theorem mapM {l : List α} {f : α → Read β} (h : ∀ a ∈ l, Yields (f a) q) :
    Yields (l.mapM f) fun m => ∀ b ∈ m, q b := by
  induction l with
  | nil => exact pure fun _ hb => absurd hb List.not_mem_nil
  | cons a l ih =>
    rw [List.mapM_cons]
    refine (h a List.mem_cons_self).bind fun b hb => ?_
    refine (ih fun c hc => h c (List.mem_cons_of_mem _ hc)).bind fun m hm => ?_
    exact pure (List.forall_mem_cons.2 ⟨hb, hm⟩)

/-- What is answered for each member of a list, where something is. -/
theorem filterMapM {l : List α} {f : α → Read (Option β)}
    (h : ∀ a ∈ l, Yields (f a) fun o => ∀ b ∈ o, q b) :
    Yields (l.filterMapM f) fun m => ∀ b ∈ m, q b := by
  induction l with
  | nil => exact pure fun _ hb => absurd hb List.not_mem_nil
  | cons a l ih =>
    have hl := ih fun c hc => h c (List.mem_cons_of_mem _ hc)
    rw [List.filterMapM_cons]
    refine (h a List.mem_cons_self).bind fun o ho => ?_
    cases o with
    | none => exact hl
    | some b => exact hl.bind fun m hm => pure (List.forall_mem_cons.2 ⟨ho b rfl, hm⟩)

/-! ### Other places and states -/

theorem within {change : Context → Context} (h : Yields step p) : Yields (within change step) p := by
  intro r a s hs
  unfold Read.within at hs
  split at hs
  · next heq =>
    cases hs
    exact h _ _ _ heq
  · cases hs

theorem inType (h : Yields step p) : Yields (inType step) p := h.within

/-- What comes of a step, if it answers. -/
theorem outcome (h : Yields step p) : Yields (outcome step) fun o => ∀ a, o = .ok a → p a := by
  intro r o s hs a ha
  unfold Read.outcome at hs
  split at hs
  · next heq =>
    cases hs
    cases ha
    exact h _ _ _ heq
  · cases hs
    cases ha

theorem settle {o : Except Diagnostic α} (h : ∀ a, o = .ok a → p a) : Yields (settle o) p := by
  cases o with
  | ok a => exact pure (h a rfl)
  | error d => exact throw

theorem attempt {step : Read (Option α)} (h : Yields step fun o => ∀ a ∈ o, p a) :
    Yields (attempt step) fun o => ∀ a ∈ o, p a := by
  have hnone : ∀ a ∈ (none : Option α), p a := fun a ha => nomatch ha
  refine .after fun before => .ite (.pure hnone) (.after fun _ => h.outcome.bind fun o ho => ?_)
  split
  · next a => exact .after fun _ => .pure (ho (some a) rfl)
  · exact .after fun _ => .pure hnone

theorem when? {b : Bool} (h : Yields step p) : Yields (when? b step) fun o => ∀ a ∈ o, p a :=
  .ite (h.bind fun _ ha => .pure fun _ hb => Option.some.inj hb ▸ ha) (.pure fun _ ha => nomatch ha)

/-- Something is tried first, and where it gives nothing there is something else. -/
theorem tried {first : Read (Option α)} {next : Option α → Read β} (h : Yields first fun o => ∀ a ∈ o, p a)
    (hsome : ∀ a, p a → Yields (next (some a)) q) (hnone : Yields (next none) q) :
    Yields (first >>= next) q := by
  refine h.bind fun o ho => ?_
  cases o with
  | none => exact hnone
  | some a => exact hsome a (ho a rfl)

theorem withoutModes (h : Yields step p) : Yields (withoutModes step) p :=
  .after fun _ => .after fun _ => h.outcome.bind fun _ ho => .after fun _ => .settle ho

/-- The items of a list. -/
theorem commaList {ends : Read Bool} (h : Yields step p) :
    Yields (commaList ends step) fun l => ∀ a ∈ l, p a := by
  refine .loop (fun l => ∀ a ∈ l, p a) (fun _ ha => absurd ha List.not_mem_nil) fun out hout => ?_
  refine .after fun _ => .ite (.pure hout) (h.bind fun a ha => .after fun _ => ?_)
  have hmore : ∀ b ∈ out ++ [a], p b := List.forall_mem_append.2 ⟨hout, List.forall_mem_singleton.2 ha⟩
  exact .ite (.pure hmore) (.after fun _ => .ite (.pure hmore) (.after fun _ => .pure hmore))

/-! ### Steps that stop -/

theorem stop {span : Span} {fault : Fault} : Yields (stop span fault : Read α) p :=
  .after fun _ => .fail

theorem stopHere {fault : Fault} : Yields (stopHere fault : Read α) p := .after fun _ => .stop

theorem unexpected {wanted : String} : Yields (unexpected wanted : Read α) p :=
  .after fun _ => .after fun _ => .stop

end Yields

end EnvSchema.Script.Read
