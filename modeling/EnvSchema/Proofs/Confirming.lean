import EnvSchema.Proofs.Frame
import EnvSchema.Proofs.Project.Rewriting
import EnvSchema.Proofs.Prompting
import EnvSchema.Proofs.Schema.Guess

/-!
# Offers that are all confirmed

A user who confirms every name, with the type that is offered first, gets a field for each name that a
pass of a check misses, since the first type always has a call. Then the schema is written and read
again.

* `Prompter.Agrees` — a user who confirms everything, and `firstTypes`, the fields that are added then;
* `Module.Survives` — a module that is read again from its text without a loss;
* `CheckContext.Saves` — the schemas that a check writes for such a user;
* `Rewrites` — how a pass changes the state: **only the schema's file holds another text, and the
  schema in the state is what is loaded from it**;
* `Saved`, `saved_of_remediate`, `saved_of_fix` — what comes of the offers: nothing, or a schema that is
  written and read again;
* `Saved.rewrites`, `Passes.rewritesFirst`, `Passes.rewrites` — so do a remediation, the first pass and
  a whole check change the state.
-/

namespace EnvSchema

open Files (Tree)
open Script (IsName Module)

variable {p : Prompter} {c : CheckContext} {settings : SchemaSettings} {library name : String}
  {names added : List String} {missing : Names} {e e' e'' : Editing} {s s' : Session} {report : Report}

/-! ### Who confirms everything -/

/-- **A user who confirms every name**, with the type that is offered first. -/
structure Prompter.Agrees (p : Prompter) : Prop where
  confirm : ∀ asked name, p.confirm asked name = .ok true
  pick : ∀ asked name type types, p.pick asked name (type :: types) = .ok type

/-- Every offer is replied to with the type that the name suggests. -/
theorem Prompter.Agrees.reply (h : p.Agrees) (asked : List Question) (name : String) :
    p.reply asked name = .ok (.typed (guess name)) :=
  Prompter.reply_typed (h.confirm asked name) (h.pick _ _ _ _)

/-- **The fields that are added** for names whose first type is taken. -/
def firstTypes (names : List String) : List (String × FieldType) := names.map fun n => (n, guess n)

theorem names_firstTypes (names : List String) : (firstTypes names).map (·.1) = names := by
  rw [firstTypes, List.map_map]
  exact List.map_id names

/-- A field comes of every name, if none is declared. -/
theorem Prompter.Agrees.fields (h : p.Agrees) {asked : List Question} {d : Dialogue} {declared : Names}
    (hd : p.dialogue asked names = .ok d) (hnew : ∀ x ∈ names, x ∉ declared) :
    d.fields declared = firstTypes names := by
  induction names generalizing asked d with
  | nil =>
    cases hd
    rfl
  | cons n ns ih =>
    obtain ⟨hn, hns⟩ := List.forall_mem_cons.1 hnew
    obtain ⟨reply, hreply, hd⟩ := except_bind_eq_ok_iff.1 hd
    obtain ⟨rest, hrest, hd⟩ := except_bind_eq_ok_iff.1 hd
    cases hd
    obtain rfl := Except.ok.inj (hreply.symm.trans (h.reply asked n))
    -- the type that is offered first has a call
    have hfield : (Reply.typed (guess n)).field? declared n = some (n, guess n) :=
      if_pos ⟨guess_ne_other n, hn⟩
    rw [Dialogue.fields_cons, hfield, ih hrest hns]
    rfl

/-- All names are chosen. -/
theorem Prompter.Agrees.chosen (h : p.Agrees) {asked : List Question} {d : Dialogue}
    (hd : p.dialogue asked names = .ok d) : d.chosen = names := by
  -- whether a name is chosen does not hang on what is declared, so it may be taken that nothing is
  have hnone : ∀ x, x ∉ ({} : Names) := fun _ => List.not_mem_nil
  have hchosen := Dialogue.names_fields {} d
  rw [h.fields hd fun x _ => hnone x, names_firstTypes] at hchosen
  rw [hchosen, eq_comm, List.filter_eq_self]
  exact fun x _ => decide_eq_true (hnone x)

/-! ### What is written and read again -/

/-- **A module survives being written**: what is read from its text has the same keys, imports the
library if it did, and reads the same variables, and the names that it binds variables to are found in
the text. -/
structure Script.Module.Survives (m : Module) (library : String) : Prop where
  keys : m.Rereads
  imports : ∀ m', Module.parse m.dialect m.print.1 = .ok m' → m'.imports library = m.imports library
  reads : ∀ m', Module.parse m.dialect m.print.1 = .ok m' → ∀ x, m'.Reads x ↔ m.Reads x
  mentions : ∀ x ∈ m.boundNames, Project.contains x.toList m.print.1.toList = true

/-- **A check writes a schema** for a user who confirms everything: the one that a pass starts from,
with a field for each of the names that the pass misses. -/
def CheckContext.Saves (c : CheckContext) (s : Session) (printed : Schema) : Prop :=
  ∃ report s' schema environment first between sources second final,
    Passes c s report s' schema environment first between sources second final ∧
    (schema.Adds c.project.schema (firstTypes report.missingInEnvironment.toList) printed ∨
      between.schema.Adds c.project.schema (firstTypes report.missingInSources.toList) printed) ∧
    printed.pending ≠ []

/-- **A state before and after the schema's file has been rewritten.** -/
structure Rewrites (settings : SchemaSettings) (e e' : Editing) : Prop where
  path : e'.schema.path = e.schema.path
  /-- The schema is what is loaded from its file. -/
  settled : Schema.load e'.session.tree e'.schema.path = .ok e'.schema
  /-- No other file holds another text. -/
  files : ∀ w, e.session.tree.way e.schema.path = .ok w → Tree.SameBut w e.session.tree e'.session.tree
  reads : ∀ x, e'.schema.module.Reads x ↔ e.schema.module.Reads x
  imports : e'.schema.module.imports settings.library = e.schema.module.imports settings.library
  /-- The file mentions the server's object, if it holds another text. -/
  mentions : e'.session.tree = e.session.tree ∨ ∃ text,
    e'.session.tree.readText e'.schema.path = .ok text ∧
      Project.contains settings.object.toList text.toList = true

namespace Rewrites

theorem refl (h : Schema.load e.session.tree e.schema.path = .ok e.schema) : Rewrites settings e e :=
  ⟨rfl, h, fun w _ => .refl w _, fun _ => .rfl, rfl, .inl rfl⟩

/-- What matters of a state is its files and its schema. -/
theorem of_unprinted (h : e'.unprinted = e.unprinted) (hr : Rewrites settings e' e'') :
    Rewrites settings e e'' := by
  have htree : e'.session.tree = e.session.tree := congrArg (·.1.1) h
  have hschema : e'.schema = e.schema := congrArg (·.2) h
  obtain ⟨hpath, hsettled, hfiles, hreads, himports, hmentions⟩ := hr
  rw [htree] at hfiles hmentions
  rw [hschema] at hpath hfiles hreads himports
  exact ⟨hpath, hsettled, hfiles, hreads, himports, hmentions⟩

/-- **A file that is rewritten twice** is rewritten. -/
theorem trans (h : Rewrites settings e e') (h' : Rewrites settings e' e'') :
    Rewrites settings e e'' where
  path := h'.path.trans h.path
  settled := h'.settled
  files w hw := by
    have hframe := h.files w hw
    have hway : e'.session.tree.way e'.schema.path = .ok w := by
      rw [h.path, hframe.shape.way]
      exact hw
    exact hframe.trans (h'.files w hway)
  reads x := (h'.reads x).trans (h.reads x)
  imports := h'.imports.trans h.imports
  mentions := by
    rcases h'.mentions with htree | htext
    · -- the file is not touched by the second step, so it holds what the first one wrote
      rw [htree, h'.path]
      exact h.mentions
    · exact .inr htext

end Rewrites

/-! ### The passes -/

/-- **What comes of offers that are all confirmed**, from one state to another. -/
inductive Saved (settings : SchemaSettings) (missing : Names) (e e' : Editing) : Prop
  /-- Nothing was offered, and nothing has changed. -/
  | nothing (hempty : missing.toList = []) (htree : e'.session.tree = e.session.tree)
      (hschema : e'.schema = e.schema)
  /-- Fields have been added, and the schema with them was written and read again. -/
  | written (printed : Schema) (hne : missing.toList ≠ [])
      (hadds : e.schema.Adds settings (firstTypes missing.toList) printed)
      (hpending : printed.pending ≠ [])
      (hwrite : e.session.tree.writeText printed.path printed.print.1 = .ok e'.session.tree)
      (hback : printed.print.2.readBack printed.print.1 = .ok e'.schema)

/-- **A remediation whose offers are all confirmed** adds a field for every name, and saves the schema
if that is any. -/
theorem saved_of_remediate (hp : p.Agrees)
    (hload : Schema.load e.session.tree e.schema.path = .ok e.schema)
    (hnew : ∀ x ∈ missing, x ∉ e.schema.declared) (h : remediate p settings missing e = .ok added e') :
    Saved settings missing e e' := by
  obtain ⟨source, m, -, -, hs⟩ := Schema.load_eq_ok_iff.1 hload
  have hnothing : e.schema.pending = [] := by rw [hs]
  obtain ⟨d, printed, hall, hadds, hnames, hfiles⟩ := saves_of_remediate hnothing h
  rw [hp.fields hall.replied hnew] at hadds hnames
  rw [names_firstTypes] at hnames
  rcases hfiles with ⟨hempty, htree, hschema⟩ | ⟨hne, hpending, hwrite, hback⟩
  · exact .nothing (hnames.trans hempty) htree hschema
  · exact .written printed (hnames ▸ hne) hadds hpending hwrite hback

/-- **A schema that has been saved with its fields** is in a file that has been rewritten, if it survives
that. -/
private theorem rewrites_of_written (hspace : IsName settings.space) {printed : Schema}
    (hload : Schema.load e.session.tree e.schema.path = .ok e.schema) (hne : missing.toList ≠ [])
    (hadds : e.schema.Adds settings (firstTypes missing.toList) printed)
    (hwrite : e.session.tree.writeText printed.path printed.print.1 = .ok e'.session.tree)
    (hback : printed.print.2.readBack printed.print.1 = .ok e'.schema)
    (hsurvives : printed.module.Survives settings.library) : Rewrites settings e e' := by
  have hextends := hadds.toExtends hspace
  obtain ⟨source, m, hread, hparse, hs⟩ := Schema.load_eq_ok_iff.1 hload
  obtain ⟨hpath', hdeclared', -, hparse'⟩ := Schema.readBack_eq_ok hback
  have hpath : e'.schema.path = printed.path := hpath'
  have hmodule : Module.parse printed.module.dialect printed.module.print.1 = .ok e'.schema.module :=
    hparse'
  -- the schema is written where it was read, and in the same dialect
  have hdialect : printed.module.dialect = Schema.dialectOf printed.path := by
    rw [hextends.dialect, hextends.path, hs]
    exact Module.dialect_of_parse hparse
  rw [← hextends.path] at hread
  -- the file was there, so it can be written and holds what was printed
  have hwritten : e'.session.tree.readText printed.path = .ok printed.print.1 := by
    obtain ⟨t, hwrite', hread'⟩ := Tree.writeText_of_readText hread printed.print.1
    rwa [Except.ok.inj (hwrite.symm.trans hwrite')]
  have hagain := Schema.load_of_readBack (s := printed.print.2) hdialect hwritten hback
  -- the names that are declared are still the keys of the module
  have hdeclared : e'.schema.declared = e'.schema.module.keys := by
    have hkeyed : e.schema.declared = e.schema.module.keys := by rw [hs]
    rw [hsurvives.keys _ hmodule, ← hextends.keyed hkeyed]
    exact hdeclared'
  have hbound : settings.object ∈ printed.module.boundNames :=
    hadds.mem_boundNames hspace (mt List.map_eq_nil_iff.1 hne)
  rw [← hdeclared, ← show e'.schema.path = printed.print.2.path from hpath] at hagain
  rw [← hpath] at hwritten
  exact {
    path := hpath.trans hextends.path
    settled := hagain
    files := fun w hw => by
      rw [← hextends.path] at hw
      obtain ⟨w', hw', hget⟩ := Tree.readText_eq_ok_iff.1 hread
      obtain rfl : w = w' := Except.ok.inj (hw.symm.trans hw')
      rw [Tree.writeText_eq_put hw hget hwrite]
      exact .put hget _
    reads := fun x => (hsurvives.reads _ hmodule x).trans (hextends.reads x)
    imports := (hsurvives.imports _ hmodule).trans (hextends.imports _)
    mentions := .inr ⟨printed.print.1, hwritten, hsurvives.mentions _ hbound⟩ }

/-- **What comes of offers that are all confirmed rewrites the schema's file**, if what is written
survives that. -/
theorem Saved.rewrites (hspace : IsName settings.space)
    (hload : Schema.load e.session.tree e.schema.path = .ok e.schema)
    (hsurvives : ∀ printed, e.schema.Adds settings (firstTypes missing.toList) printed →
      printed.pending ≠ [] → printed.module.Survives settings.library)
    (h : Saved settings missing e e') : Rewrites settings e e' := by
  cases h with
  | nothing _ htree hschema =>
    refine ⟨by rw [hschema], ?_, fun w _ => ?_, fun x => by rw [hschema], by rw [hschema], .inl htree⟩
    · rw [htree, hschema]
      exact hload
    · rw [htree]
      exact .refl w _
  | written printed hne hadds hpending hwrite hback =>
    exact rewrites_of_written hspace hload hne hadds hwrite hback (hsurvives printed hadds hpending)

/-- **The offers of a pass** that are all confirmed, once it has printed what it found. -/
theorem saved_of_fix (hm : c.mode = .interactive) (hp : c.prompter.Agrees) {e₁ : Editing}
    (hkept : e₁.unprinted = e.unprinted)
    (hload : Schema.load e.session.tree e.schema.path = .ok e.schema)
    (hnew : ∀ x ∈ missing, x ∉ e.schema.declared)
    (h : missing = {} ∧ added = [] ∧ e' = e₁ ∨ c.fix missing e₁ = .ok added e') :
    Saved c.project.schema missing e e' := by
  have htree : e₁.session.tree = e.session.tree := congrArg (·.1.1) hkept
  have hschema : e₁.schema = e.schema := congrArg (·.2) hkept
  rcases h with ⟨rfl, -, rfl⟩ | h
  · exact .nothing rfl htree hschema
  unfold CheckContext.fix at h
  rw [hm] at h
  rw [← htree, ← hschema] at hload
  rw [← hschema] at hnew
  -- printing changes neither the files nor the schema, so the state before it will do
  cases saved_of_remediate hp hload hnew h with
  | nothing hempty htree' hschema' => exact .nothing hempty (htree'.trans htree) (hschema'.trans hschema)
  | written printed hne hadds hpending hwrite hback =>
    rw [htree] at hwrite
    rw [hschema] at hadds
    exact .written printed hne hadds hpending hwrite hback

/-- A first pass that finds nothing changes neither the files nor the schema. -/
theorem unchanged_of_nothing (hm : c.mode = .interactive) (hp : c.prompter.Agrees)
    (hload : Schema.load e.session.tree e.schema.path = .ok e.schema)
    (h : checkEnvironment c e = .ok ({}, added) e') :
    e'.session.tree = e.session.tree ∧ e'.schema = e.schema := by
  obtain ⟨-, e₁, -, -, hkept, hfix⟩ := checkEnvironment_fixes h
  cases saved_of_fix hm hp hkept hload (fun x hx => absurd hx List.not_mem_nil) hfix with
  | nothing _ htree hschema => exact ⟨htree, hschema⟩
  | written _ hne => exact absurd rfl hne

namespace Passes

variable {schema final : Schema} {environment : Names} {first second : Dialogue} {between : Editing}
  {sources : List String}
  (h : Passes c s report s' schema environment first between sources second final)
include h

/-- A check starts with what is loaded from the schema's file. -/
theorem settled : Schema.load s.tree schema.path = .ok schema :=
  (CheckContext.load_of_schema h.loaded).2

/-- The second pass starts where the first one ends. -/
theorem passedThen :
    checkSources c between = .ok (report.missingInSources, second.chosen) ⟨s', final⟩ := by
  obtain ⟨first', between', hfirst, hthen⟩ := bind_eq_ok_iff.1 h.checked
  obtain ⟨⟨found, added⟩, e₂, hsecond, hreport⟩ := bind_eq_ok_iff.1 hthen
  -- the first pass is the one that is known, and the second is told from what it adds to the report
  cases h.passed.symm.trans hfirst
  injection hreport with hreport hstate
  have hfound : found = report.missingInSources := congrArg Report.missingInSources hreport
  have hadded : first.chosen ++ added = first.chosen ++ second.chosen :=
    (congrArg Report.added hreport).trans h.added
  rw [hsecond, hfound, List.append_cancel_left hadded, hstate]

variable (hm : c.mode = .interactive) (hp : c.prompter.Agrees) (hspace : IsName c.project.schema.space)
  (hsurvives : ∀ printed, c.Saves s printed → printed.module.Survives c.project.schema.library)
include hm hp hspace hsurvives

/-- **The first pass** rewrites the schema's file. -/
theorem rewritesFirst : Rewrites c.project.schema ⟨s, schema⟩ between := by
  obtain ⟨-, e₁, -, -, hkept, hfix⟩ := checkEnvironment_fixes h.passed
  have hnew : ∀ x ∈ report.missingInEnvironment, x ∉ schema.declared := by
    intro x hx
    rw [h.missingInEnvironment] at hx
    exact (Names.mem_without.1 hx).2
  refine (saved_of_fix hm hp hkept h.settled hnew hfix).rewrites hspace h.settled ?_
  intro printed hadds hsome
  exact hsurvives printed ⟨_, _, _, _, _, _, _, _, _, h, .inl hadds, hsome⟩

/-- **A check** rewrites the schema's file. -/
theorem rewrites : Rewrites c.project.schema ⟨s, schema⟩ ⟨s', final⟩ := by
  have hfirst := h.rewritesFirst hm hp hspace hsurvives
  obtain ⟨-, e₁, -, -, hkept, hfix⟩ := checkSources_fixes h.passedThen
  have hsaved := saved_of_fix hm hp hkept hfirst.settled (fun x => h.not_declared_between) hfix
  refine hfirst.trans (hsaved.rewrites hspace hfirst.settled ?_)
  intro printed hadds hsome
  exact hsurvives printed ⟨_, _, _, _, _, _, _, _, _, h, .inr hadds, hsome⟩

end Passes

end EnvSchema
