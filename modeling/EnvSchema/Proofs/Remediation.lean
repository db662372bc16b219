import EnvSchema.Proofs.Files.Tree
import EnvSchema.Proofs.Offering
import EnvSchema.Proofs.Script.Printing

/-!
# What a failed remediation leaves in the file

Until the schema is saved, its file is left alone: questions and additions change the schema alone,
and the file is written only after the last name. Then the file is read again, and that may fail
when it has been written already. So a failure leaves the files as they were, unless what is printed
is no module.

* `offerAll_keeps` — offering names changes neither the files nor where the schema is written;
* `pending_of_offerAll` — what waits to be written after offering names;
* `Spoils` — names are added to a schema whose text is no module afterwards;
* `remediate_error` — after a failure the file is another one just if this is so; and if what is on
  the page is a module, then only because a line of it has been cut.
-/

namespace EnvSchema

open Files (Tree)
open Script (Module)

variable {p : Prompter} {settings : SchemaSettings} {names added : List String} {name path : String}
  {missing : Names} {e e' : Editing} {f : Failure}

/-! ### Offering names -/

/-- The files, and where and how the schema is written. -/
def Editing.target (e : Editing) : Tree × String × Script.Dialect :=
  (e.session.tree, e.schema.path, e.schema.module.dialect)

/-- A run that keeps the files keeps them as a part of one with a schema. -/
private theorem lift_keeps {α : Type} {run : Run α} (h : Keeps Session.tree run) :
    Keeps Editing.target (liftM run : Edit α) :=
  h.lift.map fun kept => (kept.1, kept.2.path, kept.2.module.dialect)

/-- A result changes nothing. -/
private theorem ofExcept_keeps {α : Type} (r : Except Failure α) :
    Keeps Session.tree (Run.ofExcept r) := by
  cases r with
  | ok a => exact .pure a
  | error f => exact .throw f

/-- Asking whether a variable is to be added changes no file. -/
private theorem confirm_keeps (p : Prompter) (name : String) :
    Keeps Session.tree (Run.confirm p name) :=
  .bind .get fun _ => .bind (.modify fun _ => rfl) fun _ => ofExcept_keeps _

/-- Asking for a type changes no file. -/
private theorem pick_keeps (p : Prompter) (name : String) (choices : List FieldType) :
    Keeps Session.tree (Run.pick p name choices) :=
  .bind .get fun _ => .bind (.modify fun _ => rfl) fun _ => ofExcept_keeps _

/-- Adding a field changes no file, and the schema is written where it was. -/
private theorem add_keeps (name : String) (type : FieldType) (settings : SchemaSettings) :
    Keeps Editing.target (Edit.add name type settings) where
  ok := by
    intro e isAdded e' h
    obtain ⟨s', hs, rfl⟩ := Edit.add_eq_ok_iff.1 h
    rcases Schema.add_cases hs with ⟨-, rfl⟩ | ⟨-, hgets⟩
    · rfl
    · simp only [Editing.target, hgets.path, hgets.dialect]
  error h := congrArg Editing.target (Edit.eq_of_add_eq_error h)

/-- Offering a name changes no file, and the schema is written where it was. -/
private theorem offer_keeps (p : Prompter) (settings : SchemaSettings) (name : String) :
    Keeps Editing.target (offer p settings name) := by
  unfold offer
  refine .bind (lift_keeps (confirm_keeps p name)) fun wanted => ?_
  split
  · exact .pure false
  · refine .bind (lift_keeps (pick_keeps p name _)) fun type => ?_
    split
    · exact .bind (lift_keeps (.modify fun _ => rfl)) fun _ => .pure false
    · exact add_keeps name type settings

/-- **Offering names changes no file**, and the schema is written where it was. -/
theorem offerAll_keeps (p : Prompter) (settings : SchemaSettings) (names : List String) :
    Keeps Editing.target (offerAll p settings names) := by
  induction names with
  | nil => exact .pure []
  | cons n ns ih =>
    exact .bind (offer_keeps p settings n) fun _ => .bind ih fun _ => .pure _

/-- **What waits to be written** after offering names is what was added. -/
theorem pending_of_offerAll (h : offerAll p settings names e = .ok added e') :
    e'.schema.pending = e.schema.pending ++ added := by
  -- each offer puts its name behind what waits already, if it adds the name
  induction names generalizing e added with
  | nil =>
    cases h
    simp
  | cons n ns ih =>
    obtain ⟨isAdded, e₁, h₁, h⟩ := bind_eq_ok_iff.1 h
    obtain ⟨rest, e₂, h₂, h⟩ := bind_eq_ok_iff.1 h
    cases h
    obtain ⟨reply, hoffered⟩ := offer_eq_ok h₁
    rw [ih h₂, hoffered.pending]
    cases isAdded <;> simp

/-! ### Saving -/

/-- **Offering names spoils the schema**: fields are added, and what is printed then is no module. -/
def Spoils (p : Prompter) (settings : SchemaSettings) (missing : Names) (e : Editing) : Prop :=
  ∃ added e₁, offerAll p settings missing.toList e = .ok added e₁ ∧ added ≠ [] ∧
    ∀ m, Module.parse e₁.schema.module.dialect e₁.schema.print.1 ≠ .ok m

/-- Saving after names have been offered fails only after it has written what is printed. -/
private theorem save_error {e₁ : Editing} {source : String}
    (hread : e₁.session.tree.readText e₁.schema.path = .ok source)
    (h : Edit.save e₁ = .error f e') :
    e₁.schema.pending ≠ [] ∧
      (∀ m, Module.parse e₁.schema.module.dialect e₁.schema.print.1 ≠ .ok m) ∧
      e'.session.tree.readText e₁.schema.path = .ok e₁.schema.print.1 := by
  obtain ⟨t, hwrite, hnew⟩ := Tree.writeText_of_readText hread e₁.schema.print.1
  obtain ⟨hpending, -, ⟨fault, hfault, -⟩ | ⟨t', c, hwrite', hback, hsession⟩⟩ := Edit.save_eq_error h
  · -- a file that has been read can be written, so it is not the writing that fails
    exact nomatch hfault.symm.trans hwrite
  · obtain rfl : t' = t := Except.ok.inj (hwrite'.symm.trans hwrite)
    refine ⟨hpending, ?_, by rw [hsession]; exact hnew⟩
    intro m hm
    have hread : e₁.schema.print.2.readBack e₁.schema.print.1 = .ok _ :=
      except_bind_eq_ok_iff.2 ⟨m, hm, rfl⟩
    exact nomatch hread.symm.trans hback

/-- A schema that has been loaded waits for nothing to be written, and is written where it was read. -/
private theorem target_of_load (hload : Schema.load e.session.tree path = .ok e.schema) :
    e.schema.pending = [] ∧ ∃ source m, e.session.tree.readText path = .ok source ∧
      Module.parse (Schema.dialectOf path) source = .ok m ∧
      e.target = (e.session.tree, path, Schema.dialectOf path) := by
  obtain ⟨source, m, hread, hparse, hs⟩ := Schema.load_eq_ok_iff.1 hload
  refine ⟨by rw [hs], source, m, hread, hparse, ?_⟩
  rw [Editing.target, hs, ← Module.dialect_of_parse hparse]

/-- **Saving what was added to a schema that has been loaded** fails just if that spoils the schema, and
then the file holds another text. -/
private theorem spoils_of_save_error {e₁ : Editing}
    (hload : Schema.load e.session.tree path = .ok e.schema)
    (hoffer : offerAll p settings missing.toList e = .ok added e₁) (hsave : Edit.save e₁ = .error f e') :
    Spoils p settings missing e ∧ e'.session.tree.readText path ≠ e.session.tree.readText path := by
  obtain ⟨hnothing, source, m, hread, hparse, htarget⟩ := target_of_load hload
  -- offering has kept where the schema is written, so that its file is still the one that was read
  have hkept := ((offerAll_keeps p settings missing.toList).ok hoffer).trans htarget
  have htree : e₁.session.tree = e.session.tree := congrArg Prod.fst hkept
  have hpath : e₁.schema.path = path := congrArg (·.2.1) hkept
  have hdialect : e₁.schema.module.dialect = Schema.dialectOf path := congrArg (·.2.2) hkept
  have hread₁ : e₁.session.tree.readText e₁.schema.path = .ok source := by
    rw [htree, hpath]
    exact hread
  obtain ⟨hpending, hnone, hnew⟩ := save_error hread₁ hsave
  have hadded : added ≠ [] := by
    rw [pending_of_offerAll hoffer, hnothing] at hpending
    exact hpending
  refine ⟨⟨added, e₁, hoffer, hadded, hnone⟩, fun hsame => ?_⟩
  -- the text that was in the file is a module, and the one that is there is none
  rw [← hpath, hnew, hpath, hread] at hsame
  cases hsame
  exact hnone m (hdialect ▸ hparse)

/-- **A schema that is spoiled though what is on the page could be read** has a line that is cut: printing
does nothing else to the page. -/
private theorem exists_breaks_of_spoiled {s : Schema}
    (hnone : ∀ m, Module.parse s.module.dialect s.print.1 ≠ .ok m)
    (hpage : ∃ m, Module.parse s.module.dialect s.module.emitted = .ok m) :
    ∃ line ∈ Text.linesWithEnds s.module.emitted.toList, Script.Breaks line := by
  obtain ⟨m, hm⟩ := hpage
  refine Classical.byContradiction fun hcut => hnone m ?_
  have hsame : Script.breakAfterComments s.module.emitted = s.module.emitted :=
    Script.breakAfterComments_eq_self_iff.2 fun line hline hb => hcut ⟨line, hline, hb⟩
  change Module.parse _ (Script.breakAfterComments s.module.emitted) = _
  rw [hsame]
  exact hm

/-- **After a failed remediation the file holds another text** just if what was added spoiled the
schema, and otherwise no file is changed. If what was on the page could have been read, then the
schema was spoiled by cutting a line. -/
theorem remediate_error (hload : Schema.load e.session.tree path = .ok e.schema)
    (h : remediate p settings missing e = .error f e') :
    (e'.session.tree.readText path ≠ e.session.tree.readText path ↔ Spoils p settings missing e) ∧
      (¬ Spoils p settings missing e → e'.session.tree = e.session.tree) ∧
      ∀ added e₁, offerAll p settings missing.toList e = .ok added e₁ →
        (∃ m, Module.parse e₁.schema.module.dialect e₁.schema.module.emitted = .ok m) →
        Spoils p settings missing e →
        ∃ line ∈ Text.linesWithEnds e₁.schema.module.emitted.toList, Script.Breaks line := by
  rcases bind_eq_error_iff.1 h with hoffer | ⟨added, e₁, hoffer, h⟩
  · -- a question or an addition has failed, and nothing has been written
    have htree : e'.session.tree = e.session.tree :=
      congrArg Prod.fst ((offerAll_keeps p settings missing.toList).error hoffer)
    have hnot : ¬ Spoils p settings missing e := by
      rintro ⟨added, e₁, hok, -⟩
      exact nomatch hok.symm.trans hoffer
    refine ⟨⟨fun hne => absurd (by rw [htree]) hne, fun hsp => absurd hsp hnot⟩, fun _ => htree, ?_⟩
    intro added e₁ hok
    exact nomatch hok.symm.trans hoffer
  · -- saving has failed, after the file was written
    have hsave : Edit.save e₁ = .error f e' := by
      rcases bind_eq_error_iff.1 h with h | ⟨_, _, -, h⟩
      · exact h
      · exact nomatch h
    obtain ⟨hspoils, hne⟩ := spoils_of_save_error hload hoffer hsave
    refine ⟨⟨fun _ => hspoils, fun _ => hne⟩, fun hnot => absurd hspoils hnot, ?_⟩
    intro added' e₁' hoffer' hpage hspoils'
    obtain ⟨added'', e₁'', hoffer'', -, hnone⟩ := hspoils'
    cases hoffer'.symm.trans hoffer''
    exact exists_breaks_of_spoiled hnone hpage

/-- A schema with a text that goes on behind the end of a line, as if a comment ended there. -/
def continuedText : String := "const serverSchema = z.object(\x7bA: \"\\\n*/ y\"\x7d)"

/-- A session with that schema in a file. -/
def continuedSession : Session where
  tree := Tree.empty.withFile ["schema.mjs"] (.text continuedText)

/-- A user who wants every variable, and as a text. -/
def willing : Prompter := ⟨fun _ _ => .ok true, fun _ _ _ => .ok .text⟩

set_option maxRecDepth 20000 in
/-- Adding a variable to that schema spoils it. -/
theorem spoils_continuedSession :
    ∃ s f e', Schema.load continuedSession.tree "/schema.mjs" = .ok s ∧
      remediate willing {} (.ofList ["B"]) ⟨continuedSession, s⟩ = .error f e' ∧
      Spoils willing {} (.ofList ["B"]) ⟨continuedSession, s⟩ := by
  have hrun : (match Schema.load continuedSession.tree "/schema.mjs" with
      | .ok s =>
        match remediate willing {} (.ofList ["B"]) ⟨continuedSession, s⟩ with
        | .error _ e => (e.session.tree.readText "/schema.mjs").toOption != some continuedText
        | .ok _ _ => false
      | .error _ => false : Bool) = true := by decide +kernel
  -- the test holds in one branch only: the schema is loaded, and the remediation fails
  split at hrun
  · next s hload =>
    split at hrun
    · next f e' herror =>
      have hread : (continuedSession.tree.readText "/schema.mjs").toOption = some continuedText := by
        decide +kernel
      refine ⟨s, f, e', hload, herror, (remediate_error hload herror).1.1 fun hsame => ?_⟩
      rw [hsame, hread, bne_self_eq_false] at hrun
      exact nomatch hrun
    · exact nomatch hrun
  · exact nomatch hrun

end EnvSchema