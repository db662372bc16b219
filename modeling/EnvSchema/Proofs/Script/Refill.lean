import EnvSchema.Script.References

/-!
# Forms refilled with other parts

`Form.refill` takes parts from a list, one after the other, and puts them in the place of those that
the form has. The list has to be as long as the form has parts; then what is put in is what is found
in it afterwards:

* `Form.parts_refill` — the parts of a refilled form are the ones it was filled with;
* `Node.name?_refill`, `Node.keyText?_refill` — the words in a form are not parts of it, so they
  stay;
* `Node.key?_refill` — the key that a property declares stays if the texts of its parts do.

The first one goes through all forms at once, because every form is filled by the same five steps:
each takes as many parts as its place has (`Takes`), and a form filled by such steps has the parts
that were taken, in their order (`Fills`).
-/

namespace EnvSchema.Script

namespace Form

variable {α β γ : Type}

/-! ### Steps that take parts -/

/-- **A step takes `n` parts** off the list ahead, and what it makes of them has just these. -/
def Takes (step : StateM (List α) β) (n : Nat) (parts : β → List α) : Prop :=
  ∀ ps rest, ps.length = n → ∃ b, step (ps ++ rest) = (b, rest) ∧ parts b = ps

private theorem takes_pure (b : β) {parts : β → List α} (h : parts b = []) :
    Takes (pure b) 0 parts := by
  intro ps rest hl
  obtain rfl := List.length_eq_zero_iff.1 hl
  exact ⟨b, rfl, h⟩

/-- Parts taken by one step after another are taken by both together. -/
private theorem takes_bind {step : StateM (List α) β} {f : β → StateM (List α) γ} {n k m : Nat}
    {parts : β → List α} {all : γ → List α} (h : Takes step n parts)
    (hn : ∀ b ps rest, ps.length = k → ∃ c, f b (ps ++ rest) = (c, rest) ∧ all c = parts b ++ ps)
    (hm : m = n + k) : Takes (step >>= f) m all := by
  intro ps rest hl
  have hsplit : ps.take n ++ ps.drop n = ps := List.take_append_drop n ps
  obtain ⟨b, hb, hp⟩ := h (ps.take n) (ps.drop n ++ rest) (by simp; omega)
  obtain ⟨c, hc, hq⟩ := hn b (ps.drop n) rest (by simp; omega)
  refine ⟨c, ?_, by rw [hq, hp, hsplit]⟩
  -- the list that the first step is run on is the one that both together are
  rw [← List.append_assoc, hsplit] at hb
  change (f (step (ps ++ rest)).1) (step (ps ++ rest)).2 = (c, rest)
  rw [hb]
  exact hc

private theorem takes_mapM {ι : Type} {step : ι → StateM (List α) β} {n : ι → Nat}
    {parts : β → List α} (h : ∀ i, Takes (step i) (n i) parts) (l : List ι) :
    Takes (l.mapM step) ((l.map n).foldr (· + ·) 0) fun bs => bs.flatMap parts := by
  -- each step takes its parts off the front of those that are left
  induction l with
  | nil => exact takes_pure _ rfl
  | cons i l ih =>
    rw [List.mapM_cons]
    refine takes_bind (h i) ?_ rfl
    intro b ps rest hl
    obtain ⟨bs, hbs, hp⟩ := ih ps rest hl
    refine ⟨b :: bs, ?_, by simpa using hp⟩
    change (Pure.pure (b :: (l.mapM step (ps ++ rest)).1) : StateM (List α) (List β))
      (l.mapM step (ps ++ rest)).2 = _
    rw [hbs]
    rfl

private theorem takes_one (a : α) : Takes (one a) 1 fun b => [b] := by
  intro ps rest h
  obtain ⟨p, rfl⟩ := List.length_eq_one_iff.1 h
  exact ⟨p, rfl, rfl⟩

/-- As many parts are taken as there are. -/
theorem takes_many (as : List α) : Takes (many as) as.length fun bs => bs := by
  have hl : (as.map fun _ => 1).foldr (· + ·) 0 = as.length := by
    induction as with
    | nil => rfl
    | cons a as ih => rw [List.map_cons, List.foldr_cons, ih, List.length_cons, Nat.add_comm]
  have h := takes_mapM (fun a : α => takes_one a) as
  rw [hl] at h
  intro ps rest hn
  obtain ⟨bs, hb, hp⟩ := h ps rest hn
  exact ⟨bs, hb, (List.flatMap_singleton' bs).symm.trans hp⟩

private theorem takes_opt (o : Option α) : Takes (opt o) o.toList.length Option.toList := by
  cases o with
  | none => exact takes_pure none rfl
  | some a =>
    refine takes_bind (k := 0) (f := fun b => pure (some b)) (takes_one a) ?_ rfl
    intro b ps rest hl
    obtain rfl := List.length_eq_zero_iff.1 hl
    exact ⟨some b, rfl, rfl⟩

private theorem takes_holes (as : List (Option α)) :
    Takes (holes as) (as.filterMap id).length fun bs => bs.filterMap id := by
  have h := takes_mapM (fun o : Option α => takes_opt o) as
  -- a hole takes no part, and what is no hole takes one
  have hl : (as.map fun o => o.toList.length).foldr (· + ·) 0 = (as.filterMap id).length := by
    clear h
    induction as with
    | nil => rfl
    | cons o as ih =>
      cases o with
      | none => simp_all
      | some a =>
        simp_all
        omega
  rw [hl] at h
  intro ps rest hn
  obtain ⟨bs, hb, hp⟩ := h ps rest hn
  refine ⟨bs, hb, ?_⟩
  rw [← hp]
  clear hb hp
  induction bs with
  | nil => rfl
  | cons o bs ih => cases o <;> simp_all

private theorem takes_manyOpt (o : Option (List α)) :
    Takes (manyOpt o) (o.getD []).length fun b => b.getD [] := by
  cases o with
  | none => exact takes_pure none rfl
  | some as =>
    refine takes_bind (k := 0) (f := fun bs => pure (some bs)) (takes_many as) ?_ rfl
    intro bs ps rest hl
    obtain rfl := List.length_eq_zero_iff.1 hl
    exact ⟨some bs, rfl, by simp⟩

/-! ### Forms -/

/-- **A step fills a form** with `n` parts more than it has got `before`. -/
def Fills (step : StateM (List α) (Form α)) (n : Nat) (before : List α) : Prop :=
  ∀ ps rest, ps.length = n → ∃ g, step (ps ++ rest) = (g, rest) ∧ g.parts = before ++ ps

private theorem fills_pure {g : Form α} {before : List α} (h : g.parts = before) :
    Fills (pure g) 0 before := by
  intro ps rest hl
  obtain rfl := List.length_eq_zero_iff.1 hl
  exact ⟨g, rfl, by rw [h, List.append_nil]⟩

private theorem fills_bind {step : StateM (List α) β} {next : β → StateM (List α) (Form α)}
    {n k : Nat} {parts : β → List α} {before : List α} (h : Takes step n parts)
    (hn : ∀ b, Fills (next b) k (before ++ parts b)) : Fills (step >>= next) (n + k) before := by
  intro ps rest hl
  have hsplit : ps.take n ++ ps.drop n = ps := List.take_append_drop n ps
  obtain ⟨b, hb, hp⟩ := h (ps.take n) (ps.drop n ++ rest) (by simp; omega)
  obtain ⟨g, hg, hq⟩ := hn b (ps.drop n) rest (by simp; omega)
  refine ⟨g, ?_, by rw [hq, hp, List.append_assoc, hsplit]⟩
  rw [← List.append_assoc, hsplit] at hb
  change (next (step (ps ++ rest)).1) (step (ps ++ rest)).2 = (g, rest)
  rw [hb]
  exact hg

private theorem Fills.cast {step : StateM (List α) (Form α)} {n k : Nat} {before : List α}
    (h : Fills step n before) (hn : k = n) : Fills step k before := hn ▸ h

set_option maxHeartbeats 400000 in
/-- Every form is filled with as many parts as it has. -/
private theorem fills_refillM (f : Form α) : Fills f.refillM f.parts.length [] := by
  cases f
  all_goals
    apply Fills.cast
    case h =>
      -- each step of the filling is one of five, until the form is made
      repeat first
        | (apply fills_bind (takes_one _); intro _)
        | (apply fills_bind (takes_many _); intro _)
        | (apply fills_bind (takes_opt _); intro _)
        | (apply fills_bind (takes_holes _); intro _)
        | (apply fills_bind (takes_manyOpt _); intro _)
      apply fills_pure
      first
        | rfl
        | simp only [parts, List.nil_append, List.append_assoc, List.cons_append]
  all_goals first
    | rfl
    | simp only [parts, List.length_append, List.length_cons, List.length_nil] <;> omega

/-- **The parts of a refilled form** are the ones that it was filled with. -/
theorem parts_refill {f : Form α} {ps : List α} (h : ps.length = f.parts.length) :
    (f.refill ps).parts = ps := by
  obtain ⟨g, hg, hp⟩ := fills_refillM f ps [] h
  rw [List.append_nil] at hg
  rw [refill, hg]
  exact hp

end Form

namespace Node

variable {s t : Span} {f : Form Node} {ps : List Node}

/-- A refilled form has the name that it had. -/
theorem name?_refill : (Node.mk s (f.refill ps)).name? = (Node.mk t f).name? := by
  cases f <;> rfl

/-- A refilled form has the text as a key that it had. -/
theorem keyText?_refill : (Node.mk s (f.refill ps)).keyText? = (Node.mk t f).keyText? := by
  cases f <;> rfl

/-- **A refilled property declares the key that it declared**, if the parts put in have the texts of
those in whose place they are. -/
theorem key?_refill (hn : ps.map name? = f.parts.map name?)
    (hk : ps.map keyText? = f.parts.map keyText?) :
    (Node.mk s (f.refill ps)).key? = (Node.mk t f).key? := by
  cases f
  case keyValue key value =>
    obtain ⟨k, l, rfl, h, -⟩ := List.map_eq_cons_iff.1 hk
    exact h
  case shorthand name =>
    obtain ⟨n, l, rfl, h, -⟩ := List.map_eq_cons_iff.1 hn
    exact h
  all_goals rfl

end Node

end EnvSchema.Script
