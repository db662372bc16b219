import EnvSchema.Program
import EnvSchema.Proofs.Project.Sources

/-!
# What a scan finds

A scan is a check that offers nothing: it prints, and what it reports hangs on the files alone. Its
exit code says whether all variables that the project uses are declared, though the search stops at
the first undeclared variable of every file.

* `CheckContext.Sees` — the schema, the variables of the environment and the files that a check goes
  through;
* `CheckContext.AllDeclared`, `CheckContext.Lacks` — all that is used is declared, or some variable
  is used and not declared;
* `CheckContext.scanned`, `check_decides` — the report of a check that offers nothing;
* `lacks_of_mem_unresolved`, `allDeclared_iff_of_scanned` — what that report leaves unresolved;
* `work_decides`, `run_scan` — what a scan ends with, and the exit code of the program.

The passes of a check are followed one by one. Each is described for all states at once, by what it
answers and by what it leaves as it was: the files and the schema.
-/

namespace EnvSchema

open Files (Tree join)
open CommandLine (Request)

variable {c : CheckContext} {t : Tree} {report : Report}

/-! ### What is used, and what is declared -/

/-- **What a check goes through**: the schema that it selects, the variables that the project runs
with, and the files that it searches. -/
structure CheckContext.Sees (c : CheckContext) (t : Tree) (schema : Schema) (environment : Names)
    (sources : List String) : Prop where
  schema : c.schema t = .ok schema
  environment : Project.environment t c.layout.root c.project.environment c.process = .ok environment
  sources :
    Project.sourceFiles t c.layout.sources c.user.extensions c.project.scan.exclude = .ok sources

/-- **All that the project uses is declared**: every variable that it runs with, and every one that
some phrase in one of its sources reads. -/
def CheckContext.AllDeclared (c : CheckContext) (t : Tree) : Prop :=
  ∃ schema environment sources, c.Sees t schema environment sources ∧
    (∀ name ∈ environment, name ∈ schema.declared) ∧
    ∀ path ∈ sources, ∀ name, Project.ReadsIn t path name → name ∈ schema.declared

/-- **The schema lacks a variable** that the project runs with or that one of its sources reads. -/
def CheckContext.Lacks (c : CheckContext) (t : Tree) (name : String) : Prop :=
  ∃ schema environment sources, c.Sees t schema environment sources ∧ name ∉ schema.declared ∧
    (name ∈ environment ∨ ∃ path ∈ sources, Project.ReadsIn t path name)

/-- The report of a check that offers nothing. -/
def CheckContext.scanned (c : CheckContext) (t : Tree) : Except Failure Report := do
  let schema ← c.schema t
  let environment ← Project.environment t c.layout.root c.project.environment c.process
  let sources ← Project.sourceFiles t c.layout.sources c.user.extensions c.project.scan.exclude
  let missing ← Project.undeclaredInAll t schema.declared sources
  return ⟨environment.without schema.declared, missing, []⟩

/-- A report comes of what a check goes through and what it finds undeclared in the files. -/
theorem scanned_eq_ok_iff :
    c.scanned t = .ok report ↔ ∃ schema environment sources missing,
      c.Sees t schema environment sources ∧
      Project.undeclaredInAll t schema.declared sources = .ok missing ∧
      report = ⟨environment.without schema.declared, missing, []⟩ := by
  -- a report answers if each of the four questions about the files does
  simp only [CheckContext.scanned, except_bind_eq_ok_iff]
  constructor
  · rintro ⟨schema, hs, environment, he, sources, hf, missing, hm, h⟩
    cases h
    exact ⟨schema, environment, sources, missing, ⟨hs, he, hf⟩, hm, rfl⟩
  · rintro ⟨schema, environment, sources, missing, ⟨hs, he, hf⟩, hm, rfl⟩
    exact ⟨schema, hs, environment, he, sources, hf, missing, hm, rfl⟩

section

variable {schema schema' : Schema} {environment environment' : Names} {sources sources' : List String}

/-- A check goes through one schema, one environment and one list of files. -/
private theorem CheckContext.Sees.unique (h : c.Sees t schema environment sources)
    (h' : c.Sees t schema' environment' sources') :
    schema' = schema ∧ environment' = environment ∧ sources' = sources :=
  ⟨Except.ok.inj (h'.schema.symm.trans h.schema),
    Except.ok.inj (h'.environment.symm.trans h.environment),
    Except.ok.inj (h'.sources.symm.trans h.sources)⟩

/-- What the schema lacks, where it is known what a check goes through. -/
theorem CheckContext.Sees.lacks_iff (h : c.Sees t schema environment sources) {name : String} :
    c.Lacks t name ↔ name ∉ schema.declared ∧
      (name ∈ environment ∨ ∃ path ∈ sources, Project.ReadsIn t path name) := by
  constructor
  · rintro ⟨schema', environment', sources', h', hnot, huse⟩
    obtain ⟨rfl, rfl, rfl⟩ := h.unique h'
    exact ⟨hnot, huse⟩
  · rintro ⟨hnot, huse⟩
    exact ⟨schema, environment, sources, h, hnot, huse⟩

end

/-- **A report leaves unresolved** only what the schema lacks. -/
theorem lacks_of_mem_unresolved (h : c.scanned t = .ok report) {name : String}
    (hname : name ∈ report.unresolved) : c.Lacks t name := by
  obtain ⟨schema, environment, sources, missing, hsees, hm, rfl⟩ := scanned_eq_ok_iff.1 h
  simp only [Report.unresolved, Names.mem_ofList, List.mem_filter, List.mem_append] at hname
  rcases hname.1 with hname | hname
  · obtain ⟨henv, hnot⟩ := Names.mem_without.1 hname
    exact ⟨schema, environment, sources, hsees, hnot, .inl henv⟩
  · obtain ⟨hreads, hnot⟩ := Project.readsIn_of_mem_undeclaredInAll hm hname
    exact ⟨schema, environment, sources, hsees, hnot, .inr hreads⟩

/-- **A report leaves nothing unresolved** just if all that is used is declared. -/
theorem allDeclared_iff_of_scanned (h : c.scanned t = .ok report) :
    c.AllDeclared t ↔ ∀ name, name ∉ report.unresolved := by
  constructor
  · rintro ⟨schema, environment, sources, hsees, henv, hsrc⟩ name hname
    obtain ⟨hnot, huse⟩ := hsees.lacks_iff.1 (lacks_of_mem_unresolved h hname)
    rcases huse with huse | ⟨path, hpath, huse⟩
    · exact hnot (henv name huse)
    · exact hnot (hsrc path hpath name huse)
  · intro hempty
    obtain ⟨schema, environment, sources, missing, hsees, hm, rfl⟩ := scanned_eq_ok_iff.1 h
    simp only [Report.unresolved, Names.mem_ofList, List.mem_filter, List.mem_append] at hempty
    refine ⟨schema, environment, sources, hsees, ?_, ?_⟩
    · intro name hname
      by_cases hd : name ∈ schema.declared
      · exact hd
      · exact absurd ⟨.inl (Names.mem_without.2 ⟨hname, hd⟩), rfl⟩ (hempty name)
    · -- the search stops at the first name of a source, so it says something of all of them only if there is
      -- none
      refine (Project.undeclaredInAll_empty_iff hm).1 ?_
      intro name hname
      exact hempty name ⟨.inr hname, rfl⟩

/-! ### The passes -/

/-- Printing a line is always done. -/
private theorem say_decides (line : String) (s : Session) :
    Decides (.ok ()) (Run.say line) s fun s' => s'.tree = s.tree :=
  ⟨_, rfl, rfl⟩

/-- Printing lines is always done. -/
private theorem sayAll_decides (lines : List String) (s : Session) :
    Decides (.ok ()) (sayAll lines) s fun s' => s'.tree = s.tree := by
  -- line by line: the files after the first one are those of the start
  induction lines generalizing s with
  | nil => exact .pure rfl
  | cons l ls ih =>
    refine (say_decides l s).bind (f := fun _ => .ok ()) fun _ s' hs => ?_
    obtain ⟨s'', h, ht⟩ := ih s'
    exact ⟨s'', h, ht.trans hs⟩

/-- What decides a run that leaves the schema alone decides it as a part of one with a schema. -/
private theorem lift_decides {α : Type} {r : Except Failure α} {step : Run α} {e : Editing}
    (h : Decides r step e.session fun s' => s'.tree = e.session.tree) :
    Decides r (liftM step : Edit α) e
      fun e' => e'.session.tree = e.session.tree ∧ e'.schema = e.schema := by
  cases r with
  | ok a =>
    obtain ⟨s', hs, ht⟩ := h
    refine ⟨⟨s', e.schema⟩, ?_, ht, rfl⟩
    rw [Edit.lift_apply, hs]
  | error f =>
    obtain ⟨s', hs⟩ := h
    refine ⟨⟨s', e.schema⟩, ?_⟩
    rw [Edit.lift_apply, hs]

/-- The schema of a run is at hand. -/
private theorem schema_decides (e : Editing) :
    Decides (.ok e.schema) Edit.schema e
      fun e' => e'.session.tree = e.session.tree ∧ e'.schema = e.schema :=
  ⟨e, rfl, rfl, rfl⟩

/-- A scan offers nothing. -/
private theorem fix_reportOnly (hm : c.mode = .reportOnly) (missing : Names) :
    c.fix missing = pure [] := by
  unfold CheckContext.fix
  rw [hm]

/-- **The first pass of a scan** reports what the project runs with and the schema lacks. -/
private theorem checkEnvironment_decides (hm : c.mode = .reportOnly) (e : Editing) :
    Decides (do
        let names ← Project.environment e.session.tree c.layout.root c.project.environment c.process
        return (names.without e.schema.declared, []))
      (checkEnvironment c) e
      fun e' => e'.session.tree = e.session.tree ∧ e'.schema = e.schema := by
  unfold checkEnvironment
  refine Decides.bind (lift_decides (Run.look_decides
    (fun t => Project.environment t c.layout.root c.project.environment c.process) e.session)) ?_
  intro names e₁ ⟨ht₁, hs₁⟩
  refine (schema_decides e₁).bind_of_answers ?_
  intro e₂ ⟨ht₂, hs₂⟩
  refine (lift_decides (sayAll_decides _ e₂.session)).bind_of_answers ?_
  intro e₃ ⟨ht₃, hs₃⟩
  have ht : e₃.session.tree = e.session.tree := ht₃.trans (ht₂.trans ht₁)
  have hs : e₃.schema = e₁.schema := hs₃.trans hs₂
  -- from here on the two branches differ only in the line that is printed
  rw [← hs₁]
  by_cases hempty : (names.without e₁.schema.declared).isEmpty = true
  · rw [if_pos hempty, Names.eq_empty_of_isEmpty hempty]
    refine (lift_decides (say_decides _ e₃.session)).bind_of_answers ?_
    intro e₄ ⟨ht₄, hs₄⟩
    exact .pure ⟨ht₄.trans ht, hs₄.trans hs⟩
  · rw [if_neg hempty]
    refine (lift_decides (say_decides _ e₃.session)).bind_of_answers ?_
    intro e₄ ⟨ht₄, hs₄⟩
    rw [fix_reportOnly hm]
    exact .pure ⟨ht₄.trans ht, hs₄.trans hs⟩

/-- **The second pass of a scan** reports what the sources read and the schema lacks. -/
private theorem checkSources_decides (hm : c.mode = .reportOnly) (e : Editing) :
    Decides (do
        let files ← Project.sourceFiles e.session.tree c.layout.sources c.user.extensions
          c.project.scan.exclude
        let missing ← Project.undeclaredInAll e.session.tree e.schema.declared files
        return (missing, []))
      (checkSources c) e
      fun e' => e'.session.tree = e.session.tree ∧ e'.schema = e.schema := by
  unfold checkSources
  refine (schema_decides e).bind_of_answers ?_
  intro e₁ ⟨ht₁, hs₁⟩
  -- the two questions about the files are asked in one step
  rw [← bind_assoc, ← ht₁]
  refine Decides.bind (lift_decides (Run.look_decides (fun t => do
    let files ← Project.sourceFiles t c.layout.sources c.user.extensions c.project.scan.exclude
    Project.undeclaredInAll t e.schema.declared files) e₁.session)) ?_
  intro missing e₂ ⟨ht₂, hs₂⟩
  have hs : e₂.schema = e.schema := hs₂.trans hs₁
  by_cases hempty : missing.isEmpty = true
  · rw [if_pos hempty, Names.eq_empty_of_isEmpty hempty]
    refine (lift_decides (say_decides _ e₂.session)).bind_of_answers ?_
    intro e₃ ⟨ht₃, hs₃⟩
    exact .pure ⟨ht₃.trans ht₂, hs₃.trans hs⟩
  · rw [if_neg hempty]
    refine (lift_decides (sayAll_decides _ e₂.session)).bind_of_answers ?_
    intro e₃ ⟨ht₃, hs₃⟩
    refine (lift_decides (say_decides _ e₃.session)).bind_of_answers ?_
    intro e₄ ⟨ht₄, hs₄⟩
    rw [fix_reportOnly hm]
    exact .pure ⟨ht₄.trans (ht₃.trans ht₂), hs₄.trans (hs₃.trans hs)⟩

/-- Both passes of a scan report what they find, one after the other. -/
private theorem checkBoth_decides (hm : c.mode = .reportOnly) (e : Editing) :
    Decides (do
        let environment ←
          Project.environment e.session.tree c.layout.root c.project.environment c.process
        let sources ← Project.sourceFiles e.session.tree c.layout.sources c.user.extensions
          c.project.scan.exclude
        let missing ← Project.undeclaredInAll e.session.tree e.schema.declared sources
        return ⟨environment.without e.schema.declared, missing, []⟩)
      (checkBoth c) e fun e' => e'.session.tree = e.session.tree := by
  -- the report is put together at the end, from what the two passes answer
  suffices h : Decides (do
      let p ← (do
        let names ← Project.environment e.session.tree c.layout.root c.project.environment c.process
        return (names.without e.schema.declared, ([] : List String)))
      let q ← (do
        let files ← Project.sourceFiles e.session.tree c.layout.sources c.user.extensions
          c.project.scan.exclude
        let missing ← Project.undeclaredInAll e.session.tree e.schema.declared files
        return (missing, ([] : List String)))
      return ⟨p.1, q.1, p.2 ++ q.2⟩) (checkBoth c) e fun e' => e'.session.tree = e.session.tree by
    simpa only [bind_assoc, pure_bind, List.append_nil] using h
  refine Decides.bind (checkEnvironment_decides hm e) ?_
  intro p e₁ ⟨ht₁, hs₁⟩
  rw [← ht₁, ← hs₁]
  refine Decides.bind (checkSources_decides hm e₁) ?_
  intro q e₂ ⟨ht₂, _⟩
  exact .pure ht₂

/-- What decides a run with a schema decides it as a part of one without. -/
private theorem within_decides {α : Type} {r : Except Failure α} {edit : Edit α} {schema : Schema}
    {s : Session} (h : Decides r edit ⟨s, schema⟩ fun e => e.session.tree = s.tree) :
    Decides r (Edit.within schema edit) s fun s' => s'.tree = s.tree := by
  cases r with
  | ok a =>
    obtain ⟨e, he, ht⟩ := h
    refine ⟨e.session, ?_, ht⟩
    rw [Edit.within, he]
  | error f =>
    obtain ⟨e, he⟩ := h
    refine ⟨e.session, ?_⟩
    rw [Edit.within, he]

/-- **A check that offers nothing** answers the report that the files give, or fails as they do. -/
theorem check_decides (hm : c.mode = .reportOnly) (s : Session) :
    Decides (c.scanned s.tree) (check c) s fun s' => s'.tree = s.tree := by
  refine Decides.bind (Run.look_decides c.schema s) ?_
  intro schema s₁ ht₁
  rw [← ht₁]
  exact within_decides (checkBoth_decides hm ⟨s₁, schema⟩)

/-! ### The program -/

/-- What a scan works with, by the files and what the program is started with. -/
def World.scanContext (w : World) (r : Request) (t : Tree) : Except Failure CheckContext := do
  let start ← startFolder t w.folder r.path
  let root ← Project.locate t start
  let user ← userSettings w r.config t
  let project := (← Config.loadProject t root).getD {}
  let _ ← Project.Context.read t root
  let layout ← Project.layout t root project.schema project.scan
  let process := Project.processNames (w.environment.map (·.1))
  return { layout, project, user, mode := .reportOnly, prompter := w.prompter, process }

/-- The files that the program works on: those that it is started with, and a folder for logs if
there can be one. -/
def World.started (w : World) : Tree :=
  match w.tree.makeFolders (join w.folder w.logFolder) with
  | .ok t => t
  | .error _ => w.tree

/-- A run that only reports ends with one if something is left undeclared. -/
private theorem close_decides (r : Report) (s : Session) :
    Decides (.ok (if r.unresolved.isEmpty then 0 else 1)) (close .reportOnly r) s
      fun s' => s'.tree = s.tree := by
  unfold close
  -- what has been added is printed first, if there is any
  have htail (s₁ : Session) (ht₁ : s₁.tree = s.tree) :
      Decides (.ok (if r.unresolved.isEmpty then 0 else 1))
        (if (decide (Mode.reportOnly = .reportOnly) && !r.unresolved.isEmpty) = true then do
          Run.say ("\nMissing from the schema: " ++ ", ".intercalate r.unresolved.toList)
          return 1
        else return 0 : Run Nat) s₁ fun s' => s'.tree = s.tree := by
    cases r.unresolved.isEmpty with
    | true => exact .pure ht₁
    | false =>
      refine (say_decides _ s₁).bind_of_answers ?_
      intro s₂ ht₂
      exact .pure (ht₂.trans ht₁)
  by_cases hadded : (!r.added.isEmpty) = true
  · rw [if_pos hadded]
    exact (say_decides _ s).bind_of_answers htail
  · rw [if_neg hadded]
    exact htail s rfl

/-- **A check that a scan starts**, once everything else has been read, ends as its report says. -/
private theorem checked_decides (w : World) (root : String) (project : ProjectSettings) (user : UserSettings)
    (s : Session) : Decides (do
        let layout ← Project.layout s.tree root project.schema project.scan
        let report ← CheckContext.scanned
          { layout, project, user, mode := .reportOnly, prompter := w.prompter
            process := Project.processNames (w.environment.map (·.1)) } s.tree
        return if report.unresolved.isEmpty then 0 else 1)
      (do
        let layout ← Run.look fun t => Project.layout t root project.schema project.scan
        close .reportOnly (← check
          { layout, project, user, mode := .reportOnly, prompter := w.prompter
            process := Project.processNames (w.environment.map (·.1)) }))
      s fun s' => s'.tree = s.tree := by
  refine Decides.bind (Run.look_decides (fun t => Project.layout t root project.schema project.scan) s) ?_
  intro layout s₁ ht₁
  rw [← ht₁]
  refine Decides.bind (check_decides rfl s₁) ?_
  intro report s₂ ht₂
  rw [← ht₂]
  exact close_decides report s₂

/-- **A scan** ends as its report says, if the files give it one, and fails as they do otherwise. -/
theorem work_decides {w : World} {r : Request} (hr : r.command = .scan) (s : Session) :
    Decides (do
        let c ← w.scanContext r s.tree
        let report ← c.scanned s.tree
        return if report.unresolved.isEmpty then 0 else 1)
      (work w r) s fun s' => s'.tree = s.tree := by
  -- the program asks the files for one thing after the other, and each answer leaves them as they were
  unfold work
  rw [hr]
  simp only [World.scanContext, bind_assoc, pure_bind]
  refine Decides.bind (Run.look_decides (fun t => startFolder t w.folder r.path) s) ?_
  intro start s₁ ht₁
  rw [← ht₁]
  refine Decides.bind (Run.look_decides (fun t => Project.locate t start) s₁) ?_
  intro root s₂ ht₂
  rw [← ht₂]
  refine Decides.bind (Run.look_decides (userSettings w r.config) s₂) ?_
  intro user s₃ ht₃
  rw [← ht₃]
  refine Decides.bind (Run.look_decides (fun t => Config.loadProject t root) s₃) ?_
  intro project s₄ ht₄
  rw [← ht₄]
  refine Decides.bind (Run.look_decides (fun t => Project.Context.read t root) s₄) ?_
  intro context s₅ ht₅
  rw [← ht₅]
  refine (say_decides _ s₅).bind_of_answers ?_
  intro s₆ ht₆
  have hchecked (s₇ : Session) (ht₇ : s₇.tree = s₅.tree) :=
    ht₇ ▸ checked_decides w root (project.getD {}) user s₇
  -- the folders are looked at whether or not there has been a warning
  split
  · refine (say_decides _ s₆).bind_of_answers ?_
    intro s₇ ht₇
    exact hchecked s₇ (ht₇.trans ht₆)
  · exact hchecked s₆ ht₆

/-- The mode of a scan. -/
private theorem mode_of_scanContext {w : World} {r : Request} (h : w.scanContext r t = .ok c) :
    c.mode = .reportOnly := by
  simp only [World.scanContext, except_bind_eq_ok_iff] at h
  obtain ⟨start, -, root, -, user, -, project, -, context, -, layout, -, h⟩ := h
  cases h
  rfl

/-- The exit code of the program is the one that its work ends with, or one if that fails. -/
private theorem code_run {w : World} {arguments : List String} {r : Request}
    (hread : CommandLine.read (w.valueOf "ENVCHECK_CONFIG") arguments = .ok r) :
    (run w arguments).code =
      match work w r { tree := w.started } with
      | .ok code _ => code
      | .error _ _ => 1 := by
  unfold run World.started
  dsimp only
  rw [hread]
  cases w.tree.makeFolders (join w.folder w.logFolder) with
  | ok t =>
    dsimp only
    cases work w r { tree := t } <;> rfl
  | error f =>
    dsimp only
    cases work w r { tree := w.tree } <;> rfl

/-- A scan ends with a code just if there is a report that gives it. -/
private theorem work_scan_iff {w : World} {r : Request} (hr : r.command = .scan) (t : Tree)
    (code : Nat) :
    (∃ s', work w r { tree := t } = .ok code s') ↔ ∃ c report, w.scanContext r t = .ok c ∧
      c.scanned t = .ok report ∧ (if report.unresolved.isEmpty then 0 else 1) = code := by
  rw [(work_decides hr { tree := t }).answers_iff, except_bind_eq_ok_iff]
  refine exists_congr fun c => ?_
  rw [except_bind_eq_ok_iff]
  simp [pure, Except.pure]

/-- **The exit code of a scan is zero just if all that the project uses is declared**, and the check
can be made at all. Where it can be made and the code is another one, the report leaves something
unresolved, and all that it leaves unresolved is used and not declared. -/
theorem run_scan {w : World} {arguments : List String} {r : Request}
    (hread : CommandLine.read (w.valueOf "ENVCHECK_CONFIG") arguments = .ok r)
    (hscan : r.command = .scan) :
    ((run w arguments).code = 0 ↔
      ∃ c, w.scanContext r w.started = .ok c ∧
        (∃ report s', check c { tree := w.started } = .ok report s') ∧ c.AllDeclared w.started) ∧
    ∀ c report s', w.scanContext r w.started = .ok c →
      check c { tree := w.started } = .ok report s' → (run w arguments).code ≠ 0 →
      (∃ name, name ∈ report.unresolved) ∧
        ∀ name ∈ report.unresolved, c.Lacks w.started name := by
  -- a check that only reports answers what the files say, so its report can be told without running it
  have hcode := code_run hread
  have hcheck {c : CheckContext} (hc : w.scanContext r w.started = .ok c) (report : Report) :
      (∃ s', check c { tree := w.started } = .ok report s') ↔ c.scanned w.started = .ok report :=
    (check_decides (mode_of_scanContext hc) { tree := w.started }).answers_iff
  constructor
  · have hzero : (run w arguments).code = 0 ↔ ∃ s', work w r { tree := w.started } = .ok 0 s' := by
      rw [hcode]
      cases work w r { tree := w.started } <;> simp
    rw [hzero, work_scan_iff hscan]
    constructor
    · rintro ⟨c, report, hc, hreport, hends⟩
      obtain ⟨s', hs⟩ := (hcheck hc report).2 hreport
      refine ⟨c, hc, ⟨report, s', hs⟩, (allDeclared_iff_of_scanned hreport).2 ?_⟩
      exact Names.isEmpty_iff.1 (by simpa using hends)
    · rintro ⟨c, hc, ⟨report, s', hs⟩, hall⟩
      have hreport := (hcheck hc report).1 ⟨s', hs⟩
      have hempty := Names.isEmpty_iff.2 ((allDeclared_iff_of_scanned hreport).1 hall)
      exact ⟨c, report, hc, hreport, if_pos hempty⟩
  · intro c report s' hc hs hne
    have hreport := (hcheck hc report).1 ⟨s', hs⟩
    refine ⟨?_, fun name hname => lacks_of_mem_unresolved hreport hname⟩
    -- a report that leaves nothing unresolved would have ended with zero
    by_cases hempty : report.unresolved.isEmpty = true
    · obtain ⟨s'', hw⟩ := (work_scan_iff hscan w.started 0).2
        ⟨c, report, hc, hreport, if_pos hempty⟩
      rw [hcode, hw] at hne
      exact absurd rfl hne
    · exact Classical.not_forall_not.1 fun hnone => hempty (Names.isEmpty_iff.2 hnone)

/-- A project whose schema declares one of the two variables that a source reads. -/
def pageWorld : World where
  tree := ((Tree.empty.withFile ["app", "package.json"] (.text "\x7b\x7d")).withFile
    ["app", "src", "env", "schema.mjs"]
    (.text ("import \x7b z \x7d from \"zod\";\n" ++
      "export const serverSchema = z.object(\x7b A: z.string() \x7d);\n"))).withFile
    ["app", "src", "page.ts"] (.text "f(process.env.A, process.env.B);\n")
  folder := "/app"
  environment := []
  prompter := ⟨fun _ _ => .error .noTerminal, fun _ _ _ => .error .noTerminal⟩

/-- The scan of that project. -/
theorem run_scan_pageWorld :
    CommandLine.read (pageWorld.valueOf "ENVCHECK_CONFIG") ["scan"] = .ok { command := .scan } ∧
      ((run pageWorld ["scan"]).code = 0 ↔
        ∃ c, pageWorld.scanContext { command := .scan } pageWorld.started = .ok c ∧
          (∃ report s', check c { tree := pageWorld.started } = .ok report s') ∧
          c.AllDeclared pageWorld.started) :=
  ⟨rfl, (run_scan rfl rfl).1⟩

end EnvSchema
