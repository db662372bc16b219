import EnvSchema.Proofs.Frame
import EnvSchema.Proofs.Scan

/-!
# A check whose offers are declined

A user who declines every name, or leaves its field to be written by hand, changes nothing. So a check
that offers what it misses ends for such a user as one that only reports: with the same report or the
same failure, and with the same files.

* `Prompter.Declines` — nothing comes of the questions between two lists of questions;
* `Mimics` — a step does what another one does, as long as nothing comes of its questions;
* `remediate_mimics`, `checkBoth_mimics` — a remediation does nothing, and so a check that offers what
  it misses does what one does that only reports;
* `check_declined` — **the two checks end alike**.

The questions of a run are known only at its end. What a user declines in the whole of a run is
declined in each of its steps, because questions are never taken back (`Moves.asked`).
-/

namespace EnvSchema

variable {p : Prompter} {settings : SchemaSettings} {name : String} {asked asked' later : List Question}
  {declared : Names} {c : CheckContext} {e e' : Editing} {s : Session} {α β : Type}

/-! ### Who declines -/

/-- **Nothing comes of the offers** between two lists of questions: each of them is answered, by
declining it or by leaving the field to the user. -/
def Prompter.Declines (p : Prompter) (asked asked' : List Question) : Prop :=
  ∀ before name rest, asked <+: before → asked' = before ++ .confirm name :: rest →
    ∃ reply, p.reply before name = .ok reply ∧ reply.adds = false

namespace Prompter.Declines

/-- What is declined in the whole is declined at its start. -/
theorem upTo (h : p.Declines asked later) (hend : asked' <+: later) : p.Declines asked asked' := by
  intro before name rest hbegin hasked
  obtain ⟨more, rfl⟩ := hend
  refine h before name (rest ++ more) hbegin ?_
  rw [hasked, List.append_assoc, List.cons_append]

/-- What is declined in the whole is declined from some point on. -/
theorem since (h : p.Declines asked later) (hbegin : asked <+: asked') : p.Declines asked' later :=
  fun before name rest hbefore => h before name rest (hbegin.trans hbefore)

/-- Where everything is declined, nothing is wanted. -/
theorem not_wants (h : p.Declines asked asked') : ¬ p.Wants asked asked' declared := by
  rintro ⟨name, type, -, htype, before, rest, hbegin, hasked, hreply⟩
  obtain ⟨reply, hreply', hadds⟩ := h before name _ hbegin hasked
  rw [hreply] at hreply'
  cases hreply'
  exact htype (by simpa [Reply.adds] using hadds)

/-- A user of whose replies nothing ever comes declines everything. -/
theorem of_forall (h : ∀ before name, ∃ reply, p.reply before name = .ok reply ∧ reply.adds = false) :
    p.Declines asked asked' :=
  fun before name _ _ _ => h before name

end Prompter.Declines

/-! ### Doing the same -/

/-- **Two runs with a schema work on the same files and the same schema.** -/
def Editing.Alike (e e' : Editing) : Prop :=
  e'.session.tree = e.session.tree ∧ e'.schema = e.schema

/-- **A step does what another one does** as long as nothing is waiting to be written and nothing comes
of its questions. -/
structure Mimics (p : Prompter) (step step' : Edit α) : Prop where
  moves : Leads (Moves p) step
  same : ∀ e e', e.Alike e' → e.schema.pending = [] →
    p.Declines e.session.asked (leftBy step e).session.asked →
    outcome step' e' = outcome step e ∧ (leftBy step e).Alike (leftBy step' e')

namespace Mimics

theorem pure (a : α) : Mimics p (pure a) (pure a) where
  moves := pure_moves a
  same _ _ halike _ _ := ⟨rfl, halike⟩

/-- **Steps that do the same** make runs that do the same. -/
theorem bind {step step' : Edit α} {next next' : α → Edit β} (h : Mimics p step step')
    (hn : ∀ a, Mimics p (next a) (next' a)) : Mimics p (step >>= next) (step' >>= next') where
  moves := bind_moves h.moves fun a => (hn a).moves
  same e e' halike hpending hdeclines := by
    have hmoves := h.moves e
    cases hstep : step e with
    | error f t =>
      rw [leftBy_of_error hstep] at hmoves
      rw [leftBy_bind_of_error hstep] at hdeclines
      have hsame := h.same e e' halike hpending
      rw [leftBy_of_error hstep, outcome_of_error hstep] at hsame
      obtain ⟨houtcome, hleft⟩ := hsame hdeclines
      obtain ⟨t', hstep'⟩ := outcome_eq_error_iff.1 houtcome
      rw [leftBy_of_error hstep'] at hleft
      rw [leftBy_bind_of_error hstep, leftBy_bind_of_error hstep', outcome_of_error (bind_of_error hstep),
        outcome_of_error (bind_of_error hstep')]
      exact ⟨rfl, hleft⟩
    | ok a t =>
      rw [leftBy_of_ok hstep] at hmoves
      rw [leftBy_bind_of_ok hstep] at hdeclines
      -- the questions of the first step come before those of the next one
      have hfirst := hdeclines.upTo ((hn a).moves t).asked
      have hthen := hdeclines.since hmoves.asked
      have hsame := h.same e e' halike hpending
      rw [leftBy_of_ok hstep, outcome_of_ok hstep] at hsame
      obtain ⟨houtcome, hleft⟩ := hsame hfirst
      obtain ⟨t', hstep'⟩ := outcome_eq_ok_iff.1 houtcome
      rw [leftBy_of_ok hstep'] at hleft
      -- nothing that was asked was wanted, so the schema is the same and still has nothing to write
      have hnothing : t.schema.pending = [] := by
        rw [(hmoves.eq_of_not_wants hpending hfirst.not_wants).2]
        exact hpending
      rw [leftBy_bind_of_ok hstep, leftBy_bind_of_ok hstep', outcome_bind_of_ok hstep,
        outcome_bind_of_ok hstep']
      exact (hn a).same t t' hleft hnothing hthen

/-- What hangs on the files alone, and changes neither them nor what was asked, does the same on the
same files. -/
theorem lift {run : Run α} (hkeeps : Keeps (fun s : Session => (s.tree, s.asked)) run)
    (hsame : ∀ s s' : Session, s'.tree = s.tree → outcome run s' = outcome run s) :
    Mimics p (liftM run) (liftM run) where
  moves := .of_keeps hkeeps.lift fun _ _ => .of_unprinted
  same e e' halike _ _ := by
    obtain ⟨htree, hschema⟩ := halike
    -- such a run leaves the files and the schema alone on both sides, so they still agree behind it
    have hkept (e : Editing) : (leftBy (liftM run : Edit α) e).unprinted = e.unprinted :=
      Leads.of_keeps (r := fun e e' => e'.unprinted = e.unprinted) hkeeps.lift (fun _ _ h => h) e
    have hfiles (e : Editing) : (leftBy (liftM run : Edit α) e).session.tree = e.session.tree :=
      congrArg (·.1.1) (hkept e)
    have hedited (e : Editing) : (leftBy (liftM run : Edit α) e).schema = e.schema :=
      congrArg (·.2) (hkept e)
    refine ⟨?_, ?_, ?_⟩
    · have hlift (e : Editing) : outcome (liftM run : Edit α) e = outcome run e.session := by
        rw [outcome, Edit.lift_apply, outcome]
        cases run e.session <;> rfl
      rw [hlift, hlift, hsame _ _ htree]
    · rw [hfiles, hfiles, htree]
    · rw [hedited, hedited, hschema]

/-- What the files are asked for hangs on the files alone. -/
theorem look (f : Files.Tree → Except Failure α) : Mimics p (liftM (Run.look f)) (liftM (Run.look f)) := by
  refine lift (look_keeps f) fun s s' htree => ?_
  have hanswer (s : Session) : outcome (Run.look f) s = f s.tree := by
    rw [outcome, Run.look_apply]
    cases f s.tree <;> rfl
  rw [hanswer, hanswer, htree]

/-- A line is printed whatever the files are. -/
theorem say (line : String) : Mimics p (liftM (Run.say line)) (liftM (Run.say line)) :=
  lift (say_keeps line) fun _ _ _ => rfl

/-- Lines are printed whatever the files are. -/
theorem sayAll (lines : List String) :
    Mimics p (liftM (EnvSchema.sayAll lines)) (liftM (EnvSchema.sayAll lines)) := by
  refine lift (sayAll_keeps lines) fun s s' _ => ?_
  have hprinted (s : Session) : outcome (EnvSchema.sayAll lines) s = .ok () := by
    induction lines generalizing s with
    | nil => rfl
    | cons l ls ih => exact ih _
  rw [hprinted, hprinted]

/-- The schema is the same. -/
theorem schema : Mimics p Edit.schema Edit.schema where
  moves := .of_keeps schema_keeps fun _ _ => .of_unprinted
  same _ _ halike _ _ := ⟨congrArg Except.ok halike.2, halike⟩

end Mimics

/-! ### Offering without effect -/

/-- What comes of the offer of a name if no field comes of the reply. -/
private theorem offer_of_reply {reply : Reply} (h : p.reply e.session.asked name = .ok reply)
    (hadds : reply.adds = false) : Answers (offer p settings name) e fun isAdded t =>
      isAdded = false ∧ t.session.tree = e.session.tree ∧ t.schema = e.schema := by
  unfold offer
  -- either the name is declined, or its type has no call
  rcases Prompter.reply_eq_ok_iff.1 h with ⟨rfl, hno⟩ | ⟨type, rfl, hyes, hpick⟩
  · refine .bind_eq (Edit.lift_eq_ok_iff.2 ⟨_, Run.confirm_eq_ok_iff.2 ⟨hno, rfl⟩, rfl⟩) ?_
    exact .pure ⟨rfl, rfl, rfl⟩
  · have hother : type = .other := by simpa [Reply.adds] using hadds
    refine .bind_eq (Edit.lift_eq_ok_iff.2 ⟨_, Run.confirm_eq_ok_iff.2 ⟨hyes, rfl⟩, rfl⟩) ?_
    refine .bind_eq (Edit.lift_eq_ok_iff.2 ⟨_, Run.pick_eq_ok_iff.2 ⟨hpick, rfl⟩, rfl⟩) ?_
    rw [if_pos hother]
    exact ⟨false, _, rfl, rfl, rfl, rfl⟩

/-- Who is offered a name is asked for it, whatever comes of that. -/
private theorem asked_offer (p : Prompter) (settings : SchemaSettings) (name : String) (e : Editing) :
    e.session.asked ++ [.confirm name] <+: (leftBy (offer p settings name) e).session.asked := by
  -- whether it answers or fails, its first question is the same
  cases h : offer p settings name e with
  | ok isAdded t =>
    obtain ⟨reply, hoffered⟩ := offer_eq_ok h
    rw [leftBy_of_ok h, hoffered.asked, List.prefix_append_right_inj]
    cases reply with
    | declined => exact List.prefix_rfl
    | typed type => exact List.prefix_append ..
  | error f t =>
    obtain ⟨questions, hstops, rfl⟩ := offer_eq_error h
    rw [leftBy_of_error h]
    exact (List.prefix_append_right_inj _).2 hstops.confirm_prefix

/-- **An offer that is declined** does nothing but ask. -/
theorem offer_mimics (p : Prompter) (settings : SchemaSettings) (name : String) :
    Mimics p (offer p settings name) (pure false) where
  moves := offer_moves p settings name
  same e e' halike _ hdeclines := by
    obtain ⟨rest, hasked⟩ := asked_offer p settings name e
    rw [List.append_assoc] at hasked
    obtain ⟨reply, hreply, hadds⟩ := hdeclines _ name rest List.prefix_rfl hasked.symm
    have hanswers : Answers (offer p settings name) e _ := offer_of_reply hreply hadds
    obtain ⟨isAdded, t, hoffer, rfl, htree, hschema⟩ := hanswers
    rw [outcome_of_ok hoffer, leftBy_of_ok hoffer]
    exact ⟨rfl, halike.1.trans htree.symm, halike.2.trans hschema.symm⟩

/-- Offers that are declined do nothing but ask. -/
theorem offerAll_mimics (p : Prompter) (settings : SchemaSettings) (names : List String) :
    Mimics p (offerAll p settings names) (pure []) := by
  induction names with
  | nil => exact .pure []
  | cons n ns ih =>
    -- steps that answer at once make a run that does
    have hsteps : Mimics p (offerAll p settings (n :: ns)) ((pure false : Edit Bool) >>= fun isAdded =>
        (pure [] : Edit (List String)) >>= fun rest => pure (if isAdded then n :: rest else rest)) :=
      .bind (offer_mimics p settings n) fun isAdded => .bind ih fun rest => .pure _
    exact hsteps

/-- Where nothing is waiting, nothing is saved. -/
theorem save_mimics (p : Prompter) : Mimics p Edit.save (pure false) where
  moves := save_moves p
  same e e' halike hpending _ := by
    have hsave : Edit.save e = .ok false e := by
      rw [Edit.save_apply, Schema.hasPending, hpending]
      rfl
    rw [outcome_of_ok hsave, leftBy_of_ok hsave]
    exact ⟨rfl, halike⟩

/-- **A remediation whose offers are declined** adds nothing and saves nothing. -/
theorem remediate_mimics (p : Prompter) (settings : SchemaSettings) (missing : Names) :
    Mimics p (remediate p settings missing) (pure []) := by
  -- what is declined waits for nothing, so there is nothing to save
  have hsteps : Mimics p (remediate p settings missing) ((pure [] : Edit (List String)) >>= fun added =>
      (pure false : Edit Bool) >>= fun _ => pure added) :=
    .bind (offerAll_mimics p settings missing.toList) fun added =>
      .bind (save_mimics p) fun _ => .pure added
  exact hsteps

/-! ### The passes -/

/-- What is done in a check that only reports. -/
private theorem fix_mimics (c : CheckContext) (missing : Names) :
    Mimics c.prompter (c.fix missing) (pure []) := by
  unfold CheckContext.fix
  cases c.mode with
  | interactive => exact remediate_mimics c.prompter c.project.schema missing
  | reportOnly => exact .pure []

/-- The check that only reports. -/
def CheckContext.reporting (c : CheckContext) : CheckContext := { c with mode := .reportOnly }

/-- **The first pass** does what it does in a check that only reports. -/
theorem checkEnvironment_mimics (c : CheckContext) :
    Mimics c.prompter (checkEnvironment c) (checkEnvironment c.reporting) := by
  unfold checkEnvironment
  refine .bind (.look _) fun names => .bind .schema fun schema => .bind (.sayAll _) fun _ => ?_
  dsimp only
  split
  · exact .bind (.say _) fun _ => .pure _
  · exact .bind (.say _) fun _ => .bind (fix_mimics c _) fun added => .pure _

/-- **The second pass** does what it does in a check that only reports. -/
theorem checkSources_mimics (c : CheckContext) :
    Mimics c.prompter (checkSources c) (checkSources c.reporting) := by
  unfold checkSources
  refine .bind .schema fun schema => .bind (.look _) fun missing => ?_
  split
  · exact .bind (.say _) fun _ => .pure _
  · refine .bind (.sayAll _) fun _ => .bind (.say _) fun _ => ?_
    exact .bind (fix_mimics c _) fun added => .pure _

/-- **Both passes** do what they do in a check that only reports. -/
theorem checkBoth_mimics (c : CheckContext) :
    Mimics c.prompter (checkBoth c) (checkBoth c.reporting) :=
  .bind (checkEnvironment_mimics c) fun _ => .bind (checkSources_mimics c) fun _ => .pure _

/-! ### The check -/

/-- What comes of a check with a schema, and what it leaves. -/
private theorem check_of_schema {schema : Schema} (h : c.schema s.tree = .ok schema) :
    outcome (check c) s = outcome (checkBoth c) ⟨s, schema⟩ ∧
      leftBy (check c) s = (leftBy (checkBoth c) ⟨s, schema⟩).session := by
  refine ⟨?_, leftBy_check h⟩
  unfold check
  rw [outcome_bind_of_ok (Run.look_eq_ok_iff.2 ⟨h, rfl⟩), outcome, Edit.within, outcome]
  cases checkBoth c ⟨s, schema⟩ <;> rfl

/-- **A check that only reports** adds nothing and changes no file. -/
private theorem reporting_changes_nothing (c : CheckContext) (s : Session) :
    (∀ report, outcome (check c.reporting) s = .ok report → report.added = []) ∧
      (leftBy (check c.reporting) s).tree = s.tree := by
  constructor
  · intro report h
    -- a report of such a check is made with nothing added
    have hscanned := (check_decides (c := c.reporting) rfl s).answers_iff.1 (outcome_eq_ok_iff.1 h)
    simp only [CheckContext.scanned, except_bind_eq_ok_iff] at hscanned
    obtain ⟨schema, -, environment, -, sources, -, missing, -, h⟩ := hscanned
    cases h
    rfl
  · cases hschema : c.reporting.schema s.tree with
    | error f => rw [leftBy_of_error (check_of_schema_error hschema)]
    | ok schema =>
      rw [leftBy_check hschema]
      exact congrArg (·.1.1) (unprinted_of_reportOnly (c := c.reporting) rfl ⟨s, schema⟩)

/-- **A check whose offers are all declined** ends as one that only reports: with the same report, in
which nothing has been added, or with the same failure. Neither of them changes a file. -/
theorem check_declined (c : CheckContext) (s : Session)
    (h : c.prompter.Declines s.asked (leftBy (check c) s).asked) :
    outcome (check c) s = outcome (check c.reporting) s ∧
      (∀ report, outcome (check c) s = .ok report → report.added = []) ∧
      (leftBy (check c) s).tree = s.tree ∧ (leftBy (check c.reporting) s).tree = s.tree := by
  obtain ⟨hadded, hreported⟩ := reporting_changes_nothing c s
  -- what is left to show is that the two checks end alike; the rest is known of the one that only reports
  suffices hsame : outcome (check c) s = outcome (check c.reporting) s ∧
      (leftBy (check c) s).tree = s.tree by
    rw [← hsame.1] at hadded
    exact ⟨hsame.1, hadded, hsame.2, hreported⟩
  cases hschema : c.schema s.tree with
  | error f =>
    have hcheck : check c s = .error f s := check_of_schema_error hschema
    have hreport : check c.reporting s = .error f s := check_of_schema_error hschema
    rw [outcome_of_error hcheck, outcome_of_error hreport, leftBy_of_error hcheck]
    exact ⟨rfl, rfl⟩
  | ok schema =>
    obtain ⟨houtcome, hleft⟩ := check_of_schema hschema
    obtain ⟨houtcome', -⟩ := check_of_schema (c := c.reporting) hschema
    have hpending : schema.pending = [] := by
      obtain ⟨path, -, hload, -⟩ := CheckContext.schema_eq_ok_iff.1 hschema
      obtain ⟨source, m, -, -, hs⟩ := Schema.load_eq_ok_iff.1 hload
      rw [hs]
    rw [hleft] at h
    rw [houtcome, houtcome', hleft]
    -- both start from the same state, in which nothing waits
    obtain ⟨hsame, -⟩ := (checkBoth_mimics c).same ⟨s, schema⟩ ⟨s, schema⟩ ⟨rfl, rfl⟩ hpending h
    have hmoves := checkBoth_moves c ⟨s, schema⟩
    exact ⟨hsame.symm, (hmoves.eq_of_not_wants hpending h.not_wants).1⟩

/-- A user who leaves every field that is wanted to be written by hand. -/
def Prompter.byHand : Prompter where
  confirm _ name := .ok (name == "B")
  pick _ _ _ := .ok .other

/-- The check of a small project with such a user ends as one that only reports. -/
theorem check_declined_page :
    let c := { pageCheck with prompter := .byHand }
    c.mode = .interactive ∧ c.prompter.Declines pageSession.asked (leftBy (check c) pageSession).asked ∧
      outcome (check c) pageSession = outcome (check c.reporting) pageSession ∧
      (leftBy (check c) pageSession).tree = pageSession.tree := by
  have hdeclines (asked asked' : List Question) : Prompter.byHand.Declines asked asked' := by
    refine .of_forall fun before name => ?_
    by_cases hname : name = "B"
    · exact ⟨.typed .other, Prompter.reply_typed (by simpa [Prompter.byHand] using hname) rfl, rfl⟩
    · exact ⟨.declined, Prompter.reply_declined (by simpa [Prompter.byHand] using hname), rfl⟩
  obtain ⟨hsame, -, htree, -⟩ := check_declined { pageCheck with prompter := .byHand } pageSession
    (hdeclines _ _)
  exact ⟨rfl, hdeclines _ _, hsame, htree⟩

end EnvSchema
