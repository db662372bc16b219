import EnvSchema.Proofs.Files.Tree
import EnvSchema.Proofs.Interactive
import EnvSchema.Proofs.Stopping

/-!
# What a check may change

A check can end at many points, and it saves the schema at two of them. Wherever it ends, no file
other than that of the schema holds anything else than before. If that one does, then the user has
been asked about a name that the schema did not declare, and has given it a type with a call.

* `Prompter.Replied`, `Prompter.Wants` — what a user replied between two lists of questions, and that
  some undeclared name was to be added;
* `Moves` — how the state of a run with a schema may change, a relation that holds of no change and of
  one change after another;
* `offer_moves`, `save_moves`, `remediate_moves`, `checkBoth_moves` — every step of a check moves its
  state like this, whether it answers or fails;
* `check_changes` — **what a check may change**, and what it needs for that.
-/

namespace EnvSchema

open Files (Tree)

variable {p : Prompter} {settings : SchemaSettings} {name : String} {reply : Reply}
  {asked asked' : List Question} {declared : Names} {isAdded : Bool} {c : CheckContext}
  {e e' e'' : Editing} {f : Failure} {s : Session}

/-! ### Replies among the questions -/

/-- **A user replied to the offer of a name** between two lists of questions. -/
def Prompter.Replied (p : Prompter) (asked asked' : List Question) (name : String) (reply : Reply) :
    Prop :=
  ∃ before rest, asked <+: before ∧ asked' = before ++ (reply.questions name ++ rest) ∧
    p.reply before name = .ok reply

/-- **A user wanted a name that was not declared**, with a type that has a call. -/
def Prompter.Wants (p : Prompter) (asked asked' : List Question) (declared : Names) : Prop :=
  ∃ name type, name ∉ declared ∧ type ≠ .other ∧ p.Replied asked asked' name (.typed type)

/-- What was wanted is still wanted if more has been asked, and if less was declared. -/
theorem Prompter.Wants.mono {earlier later : List Question} {fewer : Names}
    (h : p.Wants asked asked' declared) (hbegin : earlier <+: asked) (hend : asked' <+: later)
    (hdeclared : ∀ x ∈ fewer, x ∈ declared) : p.Wants earlier later fewer := by
  obtain ⟨name, type, hname, htype, before, rest, hbefore, rfl, hreply⟩ := h
  obtain ⟨more, rfl⟩ := hend
  refine ⟨name, type, fun hd => hname (hdeclared name hd), htype, before, rest ++ more,
    hbegin.trans hbefore, ?_, hreply⟩
  rw [List.append_assoc, List.append_assoc]

/-! ### How states change -/

/-- **The schema of a run is in the file at the end of a way.** -/
def Editing.Holds (e : Editing) (way : List String) : Prop :=
  e.session.tree.way e.schema.path = .ok way ∧
    ∃ text, e.session.tree.get? way = some (.file (.text text))

/-- **How the state of a run with a schema may change.** -/
structure Moves (p : Prompter) (e e' : Editing) : Prop where
  /-- Questions are only added. -/
  asked : e.session.asked <+: e'.session.asked
  path : e'.schema.path = e.schema.path
  declared : ∀ x ∈ e.schema.declared, x ∈ e'.schema.declared
  /-- The file of the schema stays one, and there is nothing else elsewhere. -/
  frame : ∀ way, e.Holds way →
    e'.Holds way ∧ ∀ other, other ≠ way → e'.session.tree.get? other = e.session.tree.get? other
  /-- What changes has been waiting, or is wanted. -/
  changed : e'.session.tree ≠ e.session.tree ∨ e'.schema ≠ e.schema →
    e.schema.pending ≠ [] ∨ p.Wants e.session.asked e'.session.asked e.schema.declared

namespace Moves

/-- Questions and printing alone may change any state. -/
theorem of_same (hasked : e.session.asked <+: e'.session.asked)
    (htree : e'.session.tree = e.session.tree) (hschema : e'.schema = e.schema) : Moves p e e' where
  asked := hasked
  path := by rw [hschema]
  declared x hx := by rwa [hschema]
  frame way hway := by
    refine ⟨?_, fun other _ => by rw [htree]⟩
    rw [Editing.Holds, htree, hschema]
    exact hway
  changed := by
    rintro (hne | hne)
    · exact absurd htree hne
    · exact absurd hschema hne

theorem refl (p : Prompter) (e : Editing) : Moves p e e := of_same List.prefix_rfl rfl rfl

/-- **One change after another** is a change. -/
theorem trans (h : Moves p e e') (h' : Moves p e' e'') : Moves p e e'' where
  asked := h.asked.trans h'.asked
  path := h'.path.trans h.path
  declared x hx := h'.declared x (h.declared x hx)
  frame way hway := by
    obtain ⟨hway', hframe⟩ := h.frame way hway
    obtain ⟨hway'', hframe'⟩ := h'.frame way hway'
    exact ⟨hway'', fun other hne => (hframe' other hne).trans (hframe other hne)⟩
  changed hne := by
    -- a change of the first step goes back to its start, and so does what waits after it
    have hfirst (hne : e'.session.tree ≠ e.session.tree ∨ e'.schema ≠ e.schema) :
        e.schema.pending ≠ [] ∨ p.Wants e.session.asked e''.session.asked e.schema.declared :=
      (h.changed hne).imp_right fun hwants => hwants.mono List.prefix_rfl h'.asked fun _ hx => hx
    by_cases htree : e'.session.tree = e.session.tree
    · by_cases hschema : e'.schema = e.schema
      · rw [← htree, ← hschema] at hne
        rw [← hschema]
        refine (h'.changed hne).imp_right fun hwants => ?_
        exact hwants.mono h.asked List.prefix_rfl fun _ hx => hx
      · exact hfirst (.inr hschema)
    · exact hfirst (.inl htree)

/-- Where nothing waits and nothing is wanted, neither the files nor the schema change. -/
theorem eq_of_not_wants (h : Moves p e e') (hpending : e.schema.pending = [])
    (hnot : ¬ p.Wants e.session.asked e'.session.asked e.schema.declared) :
    e'.session.tree = e.session.tree ∧ e'.schema = e.schema := by
  have hsame : ¬ (e'.session.tree ≠ e.session.tree ∨ e'.schema ≠ e.schema) :=
    fun hne => (h.changed hne).elim (absurd hpending) hnot
  exact ⟨Classical.not_not.1 fun hne => hsame (.inl hne), Classical.not_not.1 fun hne => hsame (.inr hne)⟩

end Moves

/-- **Steps that move a state** make a run that does. -/
theorem bind_moves {α β : Type} {step : Edit α} {next : α → Edit β} (h : Leads (Moves p) step)
    (hn : ∀ a, Leads (Moves p) (next a)) : Leads (Moves p) (step >>= next) :=
  h.bind (fun _ _ _ h h' => h.trans h') hn

/-- A state that is answered with is left alone. -/
theorem pure_moves {α : Type} (a : α) : Leads (Moves p) (pure a : Edit α) := fun e => .refl p e

/-! ### Offering -/

/-- The schema is written where it was before a name was offered. -/
theorem Offered.path (h : Offered p settings name e reply isAdded e') :
    e'.schema.path = e.schema.path := by
  rcases h.schema with ⟨-, hsame⟩ | ⟨-, type, -, hgets⟩
  · rw [hsame]
  · exact hgets.path

/-- What the offer of a name does to the state. -/
theorem Offered.moves (h : Offered p settings name e reply isAdded e') : Moves p e e' where
  asked := by
    rw [h.asked]
    exact List.prefix_append ..
  path := h.path
  declared x hx := (h.declared x).2 (.inl hx)
  frame way hway := by
    refine ⟨?_, fun other _ => by rw [h.tree]⟩
    rw [Editing.Holds, h.tree, h.path]
    exact hway
  changed hne := by
    rcases h.schema with ⟨-, hsame⟩ | ⟨hadded, type, rfl, hgets⟩
    · exact hne.elim (absurd h.tree) (absurd hsame)
    · -- a field has been added, so the reply came with a type that has a call
      have htype : type ≠ .other := of_decide_eq_true (h.isAdded_iff.1 hadded).1
      refine .inr ⟨name, type, hgets.undeclared, htype, e.session.asked, [], List.prefix_rfl, ?_,
        h.replied⟩
      rw [List.append_nil]
      exact h.asked

/-- **The offer of a name** moves the state, whatever comes of it. -/
theorem offer_moves (p : Prompter) (settings : SchemaSettings) (name : String) :
    Leads (Moves p) (offer p settings name) := by
  intro e
  -- an offer that fails has only asked
  cases h : offer p settings name e with
  | ok isAdded e' =>
    obtain ⟨reply, hoffered⟩ := offer_eq_ok h
    rw [leftBy_of_ok h]
    exact hoffered.moves
  | error f e' =>
    obtain ⟨questions, -, rfl⟩ := offer_eq_error h
    rw [leftBy_of_error h]
    exact .of_same (List.prefix_append ..) rfl rfl

/-- **The offers of names** move the state, one after the other. -/
theorem offerAll_moves (p : Prompter) (settings : SchemaSettings) (names : List String) :
    Leads (Moves p) (offerAll p settings names) := by
  induction names with
  | nil => exact pure_moves []
  | cons n ns ih =>
    exact bind_moves (offer_moves p settings n) fun _ => bind_moves ih fun _ => pure_moves _

/-! ### Saving -/

/-- A run that writes its schema, or tries to, moves its state if something was waiting. -/
private theorem moves_of_write (hpending : e.schema.pending ≠ [])
    (hasked : e'.session.asked = e.session.asked) (hpath : e'.schema.path = e.schema.path)
    (hdeclared : e'.schema.declared = e.schema.declared)
    (hwrite : e'.session.tree = e.session.tree ∨
      ∃ text, e.session.tree.writeText e.schema.path text = .ok e'.session.tree) : Moves p e e' where
  asked := hasked ▸ List.prefix_rfl
  path := hpath
  declared x hx := by rwa [hdeclared]
  frame way hway := by
    rw [Editing.Holds, hpath]
    rcases hwrite with hsame | ⟨text, hwrite⟩
    · rw [hsame]
      exact ⟨hway, fun _ _ => rfl⟩
    · obtain ⟨hfollow, before, hget⟩ := hway
      have hne : way ≠ [] := by
        rintro rfl
        exact absurd hget (by simp [Tree.get?])
      -- writing into a file that is there puts a text at the end of its way, and nothing else
      rw [Tree.writeText_eq_put hfollow hget hwrite]
      exact ⟨⟨(Tree.way_put hget).trans hfollow, text, Tree.get?_put hne⟩,
        fun other hother => Tree.get?_put_of_ne hother⟩
  changed _ := .inl hpending

/-- **Saving the schema** moves the state, whatever comes of it. -/
theorem save_moves (p : Prompter) : Leads (Moves p) Edit.save := by
  intro e
  cases h : Edit.save e with
  | ok isWritten e' =>
    rw [leftBy_of_ok h]
    -- saving does nothing, or it writes what was waiting
    rcases Edit.save_eq_ok h with ⟨-, -, rfl⟩ | ⟨-, hpending, t, hwrite, hsession, hread⟩
    · exact .refl p e'
    · obtain ⟨hpath, hdeclared, -, -⟩ := Schema.readBack_eq_ok hread
      refine moves_of_write hpending ?_ hpath hdeclared (.inr ?_)
      · rw [hsession]
      · rw [hsession]
        exact ⟨_, hwrite⟩
  | error f e' =>
    rw [leftBy_of_error h]
    obtain ⟨hpending, hschema, hwrite⟩ := Edit.save_eq_error h
    have hpath : e'.schema.path = e.schema.path := by
      rw [hschema]
      rfl
    have hdeclared : e'.schema.declared = e.schema.declared := by
      rw [hschema]
      rfl
    rcases hwrite with ⟨fault, -, hsession⟩ | ⟨t, fault, hwrite, -, hsession⟩
    · -- the schema has been printed, but nothing was written
      refine moves_of_write hpending ?_ hpath hdeclared (.inl ?_)
      · rw [hsession]
      · rw [hsession]
    · refine moves_of_write hpending ?_ hpath hdeclared (.inr ?_)
      · rw [hsession]
      · rw [hsession]
        exact ⟨_, hwrite⟩

/-- **A remediation** moves the state, whatever comes of it. -/
theorem remediate_moves (p : Prompter) (settings : SchemaSettings) (missing : Names) :
    Leads (Moves p) (remediate p settings missing) :=
  bind_moves (offerAll_moves p settings missing.toList) fun _ =>
    bind_moves (save_moves p) fun _ => pure_moves _

/-! ### The passes -/

/-- What the files are asked for changes nothing. -/
theorem look_keeps {α : Type} (f : Tree → Except Failure α) :
    Keeps (fun s : Session => (s.tree, s.asked)) (Run.look f) where
  ok h := by rw [(Run.look_eq_ok_iff.1 h).2]
  error h := by rw [(Run.look_eq_error_iff.1 h).2]

/-- The schema is at hand. -/
theorem schema_keeps : Keeps Editing.unprinted Edit.schema := .bind .get fun _ => .pure _

section

variable {r : Editing → Editing → Prop} (htrans : ∀ e₁ e₂ e₃, r e₁ e₂ → r e₂ e₃ → r e₁ e₃)
  (hsame : ∀ e e', e'.unprinted = e.unprinted → r e e') (hfix : ∀ missing, Leads r (c.fix missing))
include htrans hsame hfix

/-- **The first pass** leads where offering and printing do. -/
theorem checkEnvironment_leads : Leads r (checkEnvironment c) := by
  -- all steps but the offers keep what the relation is about
  have hkeeps {α : Type} {step : Edit α} (h : Keeps Editing.unprinted step) : Leads r step :=
    .of_keeps h hsame
  unfold checkEnvironment
  refine .bind htrans (hkeeps (look_keeps _).lift) fun names => ?_
  refine .bind htrans (hkeeps schema_keeps) fun schema => ?_
  refine .bind htrans (hkeeps (sayAll_keeps _).lift) fun _ => ?_
  dsimp only
  split
  · exact .bind htrans (hkeeps (say_keeps _).lift) fun _ => hkeeps (.pure _)
  · refine .bind htrans (hkeeps (say_keeps _).lift) fun _ => ?_
    exact .bind htrans (hfix _) fun _ => hkeeps (.pure _)

/-- **The second pass** leads where offering and printing do. -/
theorem checkSources_leads : Leads r (checkSources c) := by
  have hkeeps {α : Type} {step : Edit α} (h : Keeps Editing.unprinted step) : Leads r step :=
    .of_keeps h hsame
  unfold checkSources
  refine .bind htrans (hkeeps schema_keeps) fun schema => ?_
  refine .bind htrans (hkeeps (look_keeps _).lift) fun missing => ?_
  split
  · exact .bind htrans (hkeeps (say_keeps _).lift) fun _ => hkeeps (.pure _)
  · refine .bind htrans (hkeeps (sayAll_keeps _).lift) fun _ => ?_
    refine .bind htrans (hkeeps (say_keeps _).lift) fun _ => ?_
    exact .bind htrans (hfix _) fun _ => hkeeps (.pure _)

/-- **Both passes** lead where offering and printing do. -/
theorem checkBoth_leads : Leads r (checkBoth c) := by
  refine .bind htrans (checkEnvironment_leads htrans hsame hfix) fun _ => ?_
  refine .bind htrans (checkSources_leads htrans hsame hfix) fun _ => ?_
  exact .of_keeps (.pure _) hsame

end

/-- Printing alone may change any state. -/
theorem Moves.of_unprinted (h : e'.unprinted = e.unprinted) : Moves p e e' := by
  have hasked : e'.session.asked = e.session.asked := congrArg (·.1.2) h
  exact .of_same (hasked ▸ List.prefix_rfl) (congrArg (·.1.1) h) (congrArg (·.2) h)

/-- Offering what is missing moves the state, and nothing is offered in a check that only reports. -/
theorem fix_moves (c : CheckContext) (missing : Names) : Leads (Moves c.prompter) (c.fix missing) := by
  unfold CheckContext.fix
  cases c.mode with
  | interactive => exact remediate_moves c.prompter c.project.schema missing
  | reportOnly => exact pure_moves []

/-- **Both passes of a check** move the state, whatever comes of them. -/
theorem checkBoth_moves (c : CheckContext) : Leads (Moves c.prompter) (checkBoth c) :=
  checkBoth_leads (fun _ _ _ h h' => h.trans h') (fun _ _ => .of_unprinted) (fix_moves c)

/-- **A check that only reports** asks nothing, and changes neither the files nor the schema. -/
theorem unprinted_of_reportOnly (hm : c.mode = .reportOnly) (e : Editing) :
    (leftBy (checkBoth c) e).unprinted = e.unprinted := by
  refine checkBoth_leads (r := fun e e' => e'.unprinted = e.unprinted)
    (fun _ _ _ h h' => h'.trans h) (fun _ _ h => h) (fun missing e => ?_) e
  unfold CheckContext.fix
  rw [hm]
  rfl

/-! ### The check -/

/-- **The schema of a check** is loaded from the file that is selected, and imports the library. -/
theorem CheckContext.schema_eq_ok_iff {t : Tree} {schema : Schema} :
    c.schema t = .ok schema ↔ ∃ path,
      Project.schemaFile t c.layout.env c.project.schema = .ok path ∧
      Schema.load t path = .ok schema ∧ schema.module.imports c.project.schema.library = true := by
  unfold CheckContext.schema
  rw [except_bind_eq_ok_iff]
  refine exists_congr fun path => and_congr_right fun _ => ?_
  rw [except_bind_eq_ok_iff]
  constructor
  · rintro ⟨schema', hload, h⟩
    obtain ⟨_, hlibrary, h⟩ := except_bind_eq_ok_iff.1 h
    cases h
    refine ⟨hload, ?_⟩
    unfold Schema.requireLibrary at hlibrary
    split at hlibrary
    · assumption
    · exact nomatch hlibrary
  · rintro ⟨hload, himports⟩
    refine ⟨schema, hload, except_bind_eq_ok_iff.2 ⟨(), ?_, rfl⟩⟩
    exact if_pos himports

/-- The schema of a check knows the file that it was loaded from. -/
theorem CheckContext.load_of_schema {t : Tree} {schema : Schema} (h : c.schema t = .ok schema) :
    Project.schemaFile t c.layout.env c.project.schema = .ok schema.path ∧
      Schema.load t schema.path = .ok schema := by
  obtain ⟨path, hselected, hload, -⟩ := CheckContext.schema_eq_ok_iff.1 h
  obtain ⟨source, m, -, -, hs⟩ := Schema.load_eq_ok_iff.1 hload
  obtain rfl : schema.path = path := by rw [hs]
  exact ⟨hselected, hload⟩

/-- A check without a schema leaves everything as it was. -/
theorem check_of_schema_error (h : c.schema s.tree = .error f) : check c s = .error f s :=
  bind_of_error (Run.look_eq_error_iff.2 ⟨h, rfl⟩)

/-- A check with a schema leaves what its passes do. -/
theorem leftBy_check {schema : Schema} (h : c.schema s.tree = .ok schema) :
    leftBy (check c) s = (leftBy (checkBoth c) ⟨s, schema⟩).session := by
  unfold check
  rw [leftBy_bind_of_ok (Run.look_eq_ok_iff.2 ⟨h, rfl⟩), leftBy, Edit.within, leftBy]
  cases checkBoth c ⟨s, schema⟩ <;> rfl

/-- A check of a schema that does not import the library fails at once. -/
private theorem check_of_otherLibrary {path : String} {schema : Schema}
    (hselected : Project.schemaFile s.tree c.layout.env c.project.schema = .ok path)
    (hload : Schema.load s.tree path = .ok schema)
    (himports : schema.module.imports c.project.schema.library = false) :
    check c s = .error (.otherLibrary c.project.schema.library) s := by
  have hlibrary : schema.requireLibrary c.project.schema.library =
      .error (.otherLibrary c.project.schema.library) := by
    unfold Schema.requireLibrary
    rw [himports, if_neg Bool.false_ne_true]
  refine check_of_schema_error (except_bind_eq_error_iff.2 (.inr ⟨path, hselected, ?_⟩))
  refine except_bind_eq_error_iff.2 (.inr ⟨schema, hload, ?_⟩)
  exact except_bind_eq_error_iff.2 (.inl hlibrary)

/-- **A change that the passes leave** is one of the text in the file of the schema, which has been
loaded: a name that it did not declare has been wanted. -/
private theorem changed_of_checkBoth {path : String} {schema : Schema} {way : List String}
    (hload : Schema.load s.tree path = .ok schema)
    (hne : (leftBy (checkBoth c) ⟨s, schema⟩).session.tree.get? way ≠ s.tree.get? way) :
    ∃ before after, s.tree.way path = .ok way ∧ s.tree.get? way = some (.file (.text before)) ∧
      (leftBy (checkBoth c) ⟨s, schema⟩).session.tree.get? way = some (.file (.text after)) ∧
      c.mode = .interactive ∧
      c.prompter.Wants s.asked (leftBy (checkBoth c) ⟨s, schema⟩).session.asked schema.declared := by
  obtain ⟨before, m, hread, -, hs⟩ := Schema.load_eq_ok_iff.1 hload
  obtain ⟨w, hw, hget⟩ := Tree.readText_eq_ok_iff.1 hread
  have hpath : schema.path = path := by rw [hs]
  have hpending : schema.pending = [] := by rw [hs]
  have hmoves := checkBoth_moves c ⟨s, schema⟩
  have hholds : Editing.Holds ⟨s, schema⟩ w := by
    refine ⟨?_, before, hget⟩
    rw [hpath]
    exact hw
  obtain ⟨⟨-, after, hafter⟩, hframe⟩ := hmoves.frame w hholds
  -- only the file of the schema can be what changed
  have hway : way = w := Classical.byContradiction fun hother => hne (hframe way hother)
  subst hway
  have htree : (leftBy (checkBoth c) ⟨s, schema⟩).session.tree ≠ s.tree :=
    fun hsame => hne (by rw [hsame])
  have hmode : c.mode = .interactive := by
    cases hm : c.mode with
    | interactive => rfl
    | reportOnly =>
      exact absurd (congrArg (·.1.1) (unprinted_of_reportOnly hm ⟨s, schema⟩)) htree
  -- nothing waits in a schema that has just been loaded, so something was wanted
  have hwants := (hmoves.changed (.inl htree)).resolve_left (absurd hpending)
  exact ⟨before, after, hw, hget, hafter, hmode, hwants⟩

/-- **What a check may change**, however it ends: nothing but the text in the file of the schema, which
was there before and still is. If that is another one, then the check has offered what it missed, the
schema imports the library, and a name that it did not declare was to be added with a type that has a
call. A check of a schema that does not import the library fails at once. -/
theorem check_changes (c : CheckContext) (s : Session) :
    (∀ way, (leftBy (check c) s).tree.get? way ≠ s.tree.get? way →
      ∃ path schema before after,
        Project.schemaFile s.tree c.layout.env c.project.schema = .ok path ∧
        s.tree.way path = .ok way ∧ s.tree.get? way = some (.file (.text before)) ∧
        (leftBy (check c) s).tree.get? way = some (.file (.text after)) ∧
        c.mode = .interactive ∧ Schema.load s.tree path = .ok schema ∧
        schema.module.imports c.project.schema.library = true ∧
        ∃ name type, name ∉ schema.declared ∧ type ≠ .other ∧
          c.prompter.Replied s.asked (leftBy (check c) s).asked name (.typed type)) ∧
    ∀ path schema, Project.schemaFile s.tree c.layout.env c.project.schema = .ok path →
      Schema.load s.tree path = .ok schema →
      schema.module.imports c.project.schema.library = false →
      check c s = .error (.otherLibrary c.project.schema.library) s := by
  constructor
  · intro way hne
    cases hschema : c.schema s.tree with
    | error f =>
      -- without a schema nothing is done
      rw [leftBy_of_error (check_of_schema_error hschema)] at hne
      exact absurd rfl hne
    | ok schema =>
      obtain ⟨path, hselected, hload, himports⟩ := CheckContext.schema_eq_ok_iff.1 hschema
      rw [leftBy_check hschema] at hne ⊢
      obtain ⟨before, after, hway, hbefore, hafter, hmode, hwants⟩ := changed_of_checkBoth hload hne
      exact ⟨path, schema, before, after, hselected, hway, hbefore, hafter, hmode, hload, himports,
        hwants⟩
  · intro path schema hselected hload himports
    exact check_of_otherLibrary hselected hload himports

end EnvSchema
