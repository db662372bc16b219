import EnvSchema.Proofs.Confirming
import EnvSchema.Proofs.Declining

/-!
# What is missing after a check whose offers are all confirmed

A check shows one variable of each source, so a user who confirms everything may have to run it again.
The next run starts from what this one leaves: the schema is read from the file that has been written,
and that file may be one of the sources. Still a run adds some of what the schema lacks, and nothing of
it is lost.

* `Rewrites.readsIn_iff`, `Rewrites.searchable_iff` — all files read what they did, the schema's own
  among them;
* `Passes.sees`, `Passes.sees_after` — a run and the next one go through the same environment and the
  same files;
* `Passes.lacks_after_iff`, `Passes.finds_of_lacks` — **what the schema lacks after a run** is what it
  lacked before, less what was added, and something is added if it lacked anything;
* `Settles`, `settles_of_check`, `Settles.exists_fewer` — what one run does, and that it leaves fewer
  names that the schema lacks.
-/

namespace EnvSchema

open Files (Tree join)
open Project (ReadsIn Searchable dialectOf?)
open Script (IsName Module)

variable {c : CheckContext} {settings : SchemaSettings} {t : Tree} {path other name : String}
  {e e' : Editing} {s s' : Session} {report : Report}

/-! ### The file of the schema as a source -/

/-- A schema is loaded by every path to its file. -/
theorem load_of_way {schema : Schema} (h : Schema.load t path = .ok schema)
    (hway : t.way other = t.way path) : Schema.load t other = .ok { schema with path := other } := by
  obtain ⟨source, m, hread, hparse, rfl⟩ := Schema.load_eq_ok_iff.1 h
  obtain ⟨w, hw, hget⟩ := Tree.readText_eq_ok_iff.1 hread
  have hdialect : Schema.dialectOf other = Schema.dialectOf path := by
    rw [Schema.dialectOf, Tree.extension?_of_way (hway.trans hw) hw hget]
    rfl
  refine Schema.load_eq_ok_iff.2 ⟨source, m, (Tree.readText_of_way hway).trans hread, ?_, rfl⟩
  rw [hdialect]
  exact hparse

/-- The dialect of a script with a schema is the one that the schema is read in. -/
private theorem dialectOf_eq {dialect : Script.Dialect} (h : dialectOf? path = some dialect) :
    Schema.dialectOf path = dialect := by
  change (dialectOf? path).getD .module = dialect
  rw [h]
  rfl

/-- **A file with a schema** reads what the module of the schema does, if it is a script. -/
theorem readsIn_of_load {schema : Schema} (h : Schema.load t path = .ok schema) :
    ReadsIn t path name ↔ (dialectOf? path).isSome = true ∧ schema.module.Reads name := by
  obtain ⟨source, m, hread, hparse, rfl⟩ := Schema.load_eq_ok_iff.1 h
  constructor
  · rintro ⟨dialect, source', m', hdialect, hread', hparse', hreads⟩
    -- the file is read in one dialect only, so as a source it is the module of the schema
    obtain rfl : source' = source := Except.ok.inj (hread'.symm.trans hread)
    rw [← dialectOf_eq hdialect] at hparse'
    obtain rfl : m' = m := Except.ok.inj (hparse'.symm.trans hparse)
    exact ⟨Option.isSome_iff_exists.2 ⟨dialect, hdialect⟩, hreads⟩
  · rintro ⟨hsome, hreads⟩
    obtain ⟨dialect, hdialect⟩ := Option.isSome_iff_exists.1 hsome
    rw [dialectOf_eq hdialect] at hparse
    exact ⟨dialect, source, m, hdialect, hread, hparse, hreads⟩

/-- A file with a schema can be searched. -/
theorem searchable_of_load {schema : Schema} (h : Schema.load t path = .ok schema) :
    Searchable t path := by
  obtain ⟨source, m, hread, hparse, -⟩ := Schema.load_eq_ok_iff.1 h
  intro dialect hdialect
  rw [dialectOf_eq hdialect] at hparse
  exact ⟨source, m, hread, hparse⟩

namespace Rewrites

variable (h : Rewrites settings e e') (hload : Schema.load e.session.tree e.schema.path = .ok e.schema)
include h hload

/-- The schema's file is at the end of a way, and it is the only one that may hold another text. -/
theorem exists_way : ∃ w, e.session.tree.way e.schema.path = .ok w ∧
    Tree.SameBut w e.session.tree e'.session.tree := by
  obtain ⟨source, m, hread, -, -⟩ := Schema.load_eq_ok_iff.1 hload
  obtain ⟨w, hw, -⟩ := Tree.readText_eq_ok_iff.1 hread
  exact ⟨w, hw, h.files w hw⟩

/-- The schema is loaded by the same paths before and after. -/
private theorem load_other {w : List String} (hframe : Tree.SameBut w e.session.tree e'.session.tree)
    (hway : e.session.tree.way other = e.session.tree.way e.schema.path) :
    Schema.load e.session.tree other = .ok { e.schema with path := other } ∧
      Schema.load e'.session.tree other = .ok { e'.schema with path := other } := by
  refine ⟨load_of_way hload hway, load_of_way h.settled ?_⟩
  rw [h.path, hframe.shape.way, hframe.shape.way, hway]

/-- **Every file reads what it did**, the schema's own one too. -/
theorem readsIn_iff : ReadsIn e'.session.tree other name ↔ ReadsIn e.session.tree other name := by
  obtain ⟨w, hw, hframe⟩ := h.exists_way hload
  by_cases hother : e.session.tree.way other = .ok w
  · obtain ⟨hbefore, hafter⟩ := h.load_other hload hframe (hother.trans hw.symm)
    rw [readsIn_of_load hbefore, readsIn_of_load hafter]
    exact and_congr_right fun _ => h.reads name
  · exact Project.readsIn_of_rewritten hframe hother

/-- Every file can be searched if it could be. -/
theorem searchable_iff : Searchable e'.session.tree other ↔ Searchable e.session.tree other := by
  obtain ⟨w, hw, hframe⟩ := h.exists_way hload
  by_cases hother : e.session.tree.way other = .ok w
  · obtain ⟨hbefore, hafter⟩ := h.load_other hload hframe (hother.trans hw.symm)
    exact iff_of_true (searchable_of_load hafter) (searchable_of_load hbefore)
  · exact Project.searchable_of_rewritten hframe hother

/-- **The same file is selected as the schema**, and what is loaded from it is the schema of the
state. -/
theorem schema_eq_ok (hsettings : c.project.schema = settings)
    (hselected : c.schema e.session.tree = .ok e.schema) : ∃ schema,
    c.schema e'.session.tree = .ok schema ∧ schema.declared = e'.schema.declared ∧
      e.session.tree.way schema.path = e.session.tree.way e.schema.path := by
  subst hsettings
  obtain ⟨w, hw, hframe⟩ := h.exists_way hload
  obtain ⟨hpath, -⟩ := CheckContext.load_of_schema hselected
  obtain ⟨-, -, -, himports⟩ := CheckContext.schema_eq_ok_iff.1 hselected
  have hq : ∃ q, Project.schemaFile e'.session.tree c.layout.env c.project.schema = .ok q ∧
      e.session.tree.way q = .ok w := by
    -- a file that holds another text mentions the server's object, as the one before did to be selected
    rcases h.mentions with htree | ⟨text, htext, hcontains⟩
    · rw [htree]
      exact ⟨_, hpath, hw⟩
    · refine Project.schemaFile_of_rewritten hframe hpath hw (fun q hq => ?_) hcontains
      have hway : e'.session.tree.way q = e'.session.tree.way e'.schema.path := by
        rw [h.path, hframe.shape.way, hframe.shape.way, hq, hw]
      exact (Tree.readText_of_way hway).trans htext
  obtain ⟨q, hq, hwayq⟩ := hq
  obtain ⟨-, hload'⟩ := h.load_other hload hframe (hwayq.trans hw.symm)
  refine ⟨_, CheckContext.schema_eq_ok_iff.2 ⟨q, hq, hload', ?_⟩, rfl, hwayq.trans hw.symm⟩
  exact h.imports.trans himports

end Rewrites

/-! ### One run -/

/-- **The variables are not set by the schema's file**, if they are read from files at all. -/
def CheckContext.Apart (c : CheckContext) (t : Tree) : Prop :=
  c.project.environment.source = .files →
    ∀ path, Project.schemaFile t c.layout.env c.project.schema = .ok path →
      ∀ file ∈ Project.variableFiles, t.way (join c.layout.root file) ≠ t.way path

/-- **A check finds something** that the schema does not declare. -/
def Report.Finds (report : Report) : Prop :=
  (∃ name, name ∈ report.missingInEnvironment) ∨ ∃ name, name ∈ report.missingInSources

namespace Passes

variable {schema final : Schema} {environment : Names} {first second : Dialogue} {between : Editing}
  {sources : List String}
  (h : Passes c s report s' schema environment first between sources second final)
include h

/-- The schema is loaded from the file that is selected. -/
private theorem selected : Project.schemaFile s.tree c.layout.env c.project.schema = .ok schema.path :=
  (CheckContext.load_of_schema h.loaded).1

variable (hm : c.mode = .interactive) (hp : c.prompter.Agrees) (hspace : IsName c.project.schema.space)
  (hsurvives : ∀ printed, c.Saves s printed → printed.module.Survives c.project.schema.library)

section

include hp

/-- All that the first pass finds is added by it. -/
private theorem chosenFirst : first.chosen = report.missingInEnvironment.toList :=
  hp.chosen h.offeredFirst.replied

/-- All that the second pass finds is added by it. -/
private theorem chosenThen : second.chosen = report.missingInSources.toList :=
  hp.chosen h.offeredThen.replied

/-- **What is added** is what is found. -/
theorem mem_added_iff :
    name ∈ report.added ↔ name ∈ report.missingInEnvironment ∨ name ∈ report.missingInSources := by
  rw [h.added, h.chosenFirst hp, h.chosenThen hp, List.mem_append, Names.mem_iff, Names.mem_iff]

/-- A run that finds something adds something. -/
theorem added_ne_nil (hfinds : report.Finds) : report.added ≠ [] := by
  rcases hfinds with ⟨name, hname⟩ | ⟨name, hname⟩
  · exact List.ne_nil_of_mem ((h.mem_added_iff hp).2 (.inl hname))
  · exact List.ne_nil_of_mem ((h.mem_added_iff hp).2 (.inr hname))

end

include hm hp hspace hsurvives

/-- **What a run goes through**: it searches the files that there were before it rewrote one. -/
theorem sees : c.Sees s.tree schema environment sources := by
  have hfirst := h.rewritesFirst hm hp hspace hsurvives
  obtain ⟨w, -, hframe⟩ := hfirst.exists_way h.settled
  refine ⟨h.loaded, h.collected, ?_⟩
  have hlisted := h.listed
  rwa [Project.sourceFiles_eq hframe.shape] at hlisted

/-- **What the next run goes through**: the same environment and the same files, and a schema that
declares what was declared in the end. -/
theorem sees_after (hapart : c.Apart s.tree) : ∃ schema', schema'.declared = final.declared ∧
    c.Sees s'.tree schema' environment sources := by
  have hrewrites := h.rewrites hm hp hspace hsurvives
  obtain ⟨w, hw, hframe⟩ := hrewrites.exists_way h.settled
  obtain ⟨schema', hschema, hdeclared, -⟩ := hrewrites.schema_eq_ok h.settled rfl h.loaded
  have hsees := h.sees hm hp hspace hsurvives
  refine ⟨schema', hdeclared, hschema, ?_, ?_⟩
  · -- the environment hangs on files that are none of the schema's, and the list of sources on no text at all
    rw [Project.environment_eq hframe]
    · exact hsees.environment
    · intro hfiles file hfile hway
      exact hapart hfiles _ h.selected file hfile (hway.trans hw.symm)
  · rw [Project.sourceFiles_eq hframe.shape]
    exact hsees.sources

/-- The variables are not set by the schema's file after a run if they were not before. -/
theorem apart_after (hapart : c.Apart s.tree) : c.Apart s'.tree := by
  have hrewrites := h.rewrites hm hp hspace hsurvives
  obtain ⟨w, hw, hframe⟩ := hrewrites.exists_way h.settled
  obtain ⟨schema', hschema, -, hway⟩ := hrewrites.schema_eq_ok h.settled rfl h.loaded
  obtain ⟨hselected', -⟩ := CheckContext.load_of_schema hschema
  intro hfiles path hpath file hfile
  obtain rfl : schema'.path = path := Except.ok.inj (hselected'.symm.trans hpath)
  -- the ways of all paths are what they were, and so is that of the schema
  rw [hframe.shape.way, hframe.shape.way, hway]
  exact hapart hfiles _ h.selected file hfile

/-- All files that are searched can be searched, before the run and after it. -/
theorem searchable (hpath : path ∈ sources) : Searchable s.tree path ∧ Searchable s'.tree path := by
  have hfirst := h.rewritesFirst hm hp hspace hsurvives
  have hrewrites := h.rewrites hm hp hspace hsurvives
  have hbetween := Project.exists_undeclaredInAll_iff.1 ⟨_, h.searched⟩ path hpath
  have hbefore := (hfirst.searchable_iff h.settled).1 hbetween
  exact ⟨hbefore, (hrewrites.searchable_iff h.settled).2 hbefore⟩

/-- **What the schema lacks after a run** is what it lacked before and was not added. -/
theorem lacks_after_iff (hapart : c.Apart s.tree) :
    c.Lacks s'.tree name ↔ c.Lacks s.tree name ∧ name ∉ report.added := by
  have hrewrites := h.rewrites hm hp hspace hsurvives
  obtain ⟨schema', hdeclared, hafter⟩ := h.sees_after hm hp hspace hsurvives hapart
  have hreads (path : String) : ReadsIn s'.tree path name ↔ ReadsIn s.tree path name :=
    hrewrites.readsIn_iff h.settled
  rw [hafter.lacks_iff, (h.sees hm hp hspace hsurvives).lacks_iff, hdeclared, h.declared_final, not_or]
  simp only [hreads, and_right_comm]

/-- What is added was lacking. -/
theorem lacks_of_mem_added (hname : name ∈ report.added) : c.Lacks s.tree name := by
  have hnot := h.added_new hname
  refine (h.sees hm hp hspace hsurvives).lacks_iff.2 ⟨hnot, ?_⟩
  rcases (h.mem_added_iff hp).1 hname with hname | hname
  · rw [h.missingInEnvironment] at hname
    exact .inl (Names.mem_without.1 hname).1
  · obtain ⟨⟨path, hpath, hreads⟩, -⟩ := Project.readsIn_of_mem_undeclaredInAll h.searched hname
    have hfirst := h.rewritesFirst hm hp hspace hsurvives
    exact .inr ⟨path, hpath, (hfirst.readsIn_iff h.settled).1 hreads⟩

/-- **A run finds something** if the schema lacks anything. -/
theorem finds_of_lacks (hlacks : c.Lacks s.tree name) : report.Finds := by
  obtain ⟨hnot, huse⟩ := (h.sees hm hp hspace hsurvives).lacks_iff.1 hlacks
  refine Classical.byContradiction fun hnone => ?_
  obtain ⟨hnoneFirst, hnoneThen⟩ := not_or.1 hnone
  rw [not_exists] at hnoneFirst hnoneThen
  rcases huse with henvironment | ⟨path, hpath, hreads⟩
  · refine hnoneFirst name ?_
    rw [h.missingInEnvironment]
    exact Names.mem_without.2 ⟨henvironment, hnot⟩
  · -- nothing has been added by the first pass, so the source still reads what is not declared
    have hfirst := h.rewritesFirst hm hp hspace hsurvives
    have hall := (Project.undeclaredInAll_empty_iff h.searched).1 hnoneThen path hpath name
      ((hfirst.readsIn_iff h.settled).2 hreads)
    rcases (h.declared_between name).1 hall with hd | hchosen
    · exact hnot hd
    · rw [h.chosenFirst hp] at hchosen
      exact hnoneFirst name hchosen

end Passes

/-! ### What there is to be added -/

/-- A check that only reports answers, and finds nothing. -/
def CheckContext.FindsNothing (c : CheckContext) (t : Tree) : Prop :=
  ∃ report s', check c.reporting { tree := t } = .ok report s' ∧ ¬ report.Finds

/-- **A check that only reports finds nothing** where nothing is lacking, if the files can be
searched. -/
private theorem findsNothing_of_sees {schema : Schema} {environment : Names} {sources : List String}
    (hsees : c.Sees t schema environment sources) (hsearchable : ∀ path ∈ sources, Searchable t path)
    (hnone : ∀ x, ¬ c.Lacks t x) : c.FindsNothing t := by
  obtain ⟨missing, hmissing⟩ : ∃ missing, Project.undeclaredInAll t schema.declared sources = .ok missing :=
    Project.exists_undeclaredInAll_iff.2 hsearchable
  have hscanned : c.reporting.scanned t = .ok ⟨environment.without schema.declared, missing, []⟩ :=
    scanned_eq_ok_iff.2 ⟨schema, environment, sources, missing,
      ⟨hsees.schema, hsees.environment, hsees.sources⟩, hmissing, rfl⟩
  obtain ⟨s', hs⟩ := (check_decides (c := c.reporting) rfl { tree := t }).answers_iff.2 hscanned
  refine ⟨_, s', hs, ?_⟩
  -- what is found in the environment or in a source is lacking
  rintro (⟨x, hx⟩ | ⟨x, hx⟩)
  · obtain ⟨henvironment, hnot⟩ := Names.mem_without.1 hx
    exact hnone x (hsees.lacks_iff.2 ⟨hnot, .inl henvironment⟩)
  · obtain ⟨hreads, hnot⟩ := Project.readsIn_of_mem_undeclaredInAll hmissing hx
    exact hnone x (hsees.lacks_iff.2 ⟨hnot, .inr hreads⟩)

/-- Files that can be searched read finitely many variables. -/
private theorem exists_names_readsIn {sources : List String}
    (h : ∀ path ∈ sources, Searchable t path) :
    ∃ names : List String, ∀ x, x ∈ names ↔ ∃ path ∈ sources, ReadsIn t path x := by
  induction sources with
  | nil => exact ⟨[], fun x => by simp⟩
  | cons path sources ih =>
    obtain ⟨hpath, hsources⟩ := List.forall_mem_cons.1 h
    obtain ⟨names, hnames⟩ := ih hsources
    have hone : ∃ more : List String, ∀ x, x ∈ more ↔ ReadsIn t path x := by
      -- a file that is no script reads nothing
      cases hdialect : dialectOf? path with
      | none => exact ⟨[], fun x => by simp [ReadsIn, hdialect]⟩
      | some dialect =>
        obtain ⟨source, m, hread, hparse⟩ := hpath dialect hdialect
        exact ⟨m.references, fun x => (Project.readsIn_iff_of_parse hdialect hread hparse).symm⟩
    obtain ⟨more, hmore⟩ := hone
    refine ⟨more ++ names, fun x => ?_⟩
    simp [hmore, hnames]

/-- **The schema lacks finitely many names.** -/
private theorem exists_names_lacks {schema : Schema} {environment : Names} {sources : List String}
    (hsees : c.Sees t schema environment sources) (hsearchable : ∀ path ∈ sources, Searchable t path) :
    ∃ names : Names, ∀ x, x ∈ names ↔ c.Lacks t x := by
  obtain ⟨read, hread⟩ := exists_names_readsIn hsearchable
  refine ⟨(Names.ofList (environment.toList ++ read)).without schema.declared, fun x => ?_⟩
  rw [Names.mem_without, Names.mem_ofList, List.mem_append, hread, hsees.lacks_iff]
  exact and_comm

/-! ### Checks one after the other -/

/-- **What one run does** if every name is confirmed. -/
structure Settles (c : CheckContext) (t t' : Tree) (report : Report) : Prop where
  /-- What is lacking afterwards was lacking before and has not been added. -/
  lacks : ∀ x, c.Lacks t' x ↔ c.Lacks t x ∧ x ∉ report.added
  /-- Nothing else is added. -/
  added : ∀ x ∈ report.added, c.Lacks t x
  added_ne_nil : report.Finds → report.added ≠ []
  finds : ∀ x, c.Lacks t x → report.Finds
  finite : ∃ names : Names, ∀ x, x ∈ names ↔ c.Lacks t x
  apart : c.Apart t'
  before : (∀ x, ¬ c.Lacks t x) → c.FindsNothing t
  after : (∀ x, ¬ c.Lacks t' x) → c.FindsNothing t'

/-- **A run of a check whose offers are all confirmed** adds some of what the schema lacks, if there is
anything, and takes nothing away. -/
theorem settles_of_check (hm : c.mode = .interactive) (hp : c.prompter.Agrees)
    (hspace : IsName c.project.schema.space) (hapart : c.Apart s.tree)
    (hsurvives : ∀ printed, c.Saves s printed → printed.module.Survives c.project.schema.library)
    (h : check c s = .ok report s') : Settles c s.tree s'.tree report := by
  obtain ⟨schema, environment, first, between, sources, second, final, hpasses⟩ := check_passes hm h
  have hsees := hpasses.sees hm hp hspace hsurvives
  obtain ⟨schema', -, hafter⟩ := hpasses.sees_after hm hp hspace hsurvives hapart
  have hsearchable : ∀ path ∈ sources, Searchable s.tree path ∧ Searchable s'.tree path :=
    fun path => hpasses.searchable hm hp hspace hsurvives
  exact {
    lacks := fun x => hpasses.lacks_after_iff hm hp hspace hsurvives hapart
    added := fun x => hpasses.lacks_of_mem_added hm hp hspace hsurvives
    added_ne_nil := hpasses.added_ne_nil hp
    finds := fun x => hpasses.finds_of_lacks hm hp hspace hsurvives
    finite := exists_names_lacks hsees fun path hpath => (hsearchable path hpath).1
    apart := hpasses.apart_after hm hp hspace hsurvives hapart
    before := findsNothing_of_sees hsees fun path hpath => (hsearchable path hpath).1
    after := findsNothing_of_sees hafter fun path hpath => (hsearchable path hpath).2 }

/-- **A run leaves fewer names** that the schema lacks, if there were any. -/
theorem Settles.exists_fewer {t' : Tree} {names : Names} (h : Settles c t t' report)
    (hnames : ∀ x, x ∈ names ↔ c.Lacks t x) : ∃ names' : Names,
    (∀ x, x ∈ names' ↔ c.Lacks t' x) ∧ (∀ x ∈ names', x ∈ names) ∧
      names'.toList.length ≤ names.toList.length - 1 := by
  refine ⟨names.without (.ofList report.added), fun x => ?_, fun x hx => (Names.mem_without.1 hx).1, ?_⟩
  · rw [Names.mem_without, Names.mem_ofList, hnames, h.lacks]
  · -- without a name there is nothing to be less than
    by_cases hsome : ∃ x, x ∈ names
    · obtain ⟨x, hx⟩ := hsome
      have hadded := h.added_ne_nil (h.finds x ((hnames x).1 hx))
      obtain ⟨y, hy⟩ := List.exists_mem_of_ne_nil _ hadded
      -- a name that has been added is no longer there
      have hmem : y ∈ names := (hnames y).2 (h.added y hy)
      exact Nat.le_pred_of_lt (Names.length_without_lt hmem (Names.mem_ofList.2 hy))
    · have hempty : names.toList = [] := List.eq_nil_iff_forall_not_mem.2 (not_exists.1 hsome)
      have hle := names.length_without_le (.ofList report.added)
      rw [hempty] at hle ⊢
      exact hle

end EnvSchema
