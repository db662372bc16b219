import EnvSchema.Proofs.Settling

/-!
# Checks that are repeated until nothing is missing

A user who confirms everything runs a check again and again. The schema lacks less after every run, so
there is nothing left to add after as many runs as there were names to be added.

* `CheckContext.Repeats` — checks one after the other, each from the files that the one before left;
* `repeats_settle` — **nothing is missing after as many runs as names were missing at first**;
* `repeats_unsettled` — this hangs on the library going by an identifier, and on the schema's file
  setting no variables.
-/

namespace EnvSchema

open Files (Tree)
open Script (IsName Module)

variable {c : CheckContext} {t : Tree} {path : String}

/-- **A check is repeated**: each of its runs answers, and the next one starts from the files that it
leaves. -/
def CheckContext.Repeats (c : CheckContext) (k : Nat) (trees : Nat → Tree) (reports : Nat → Report) :
    Prop :=
  ∀ i < k, ∃ s', check c { tree := trees i } = .ok (reports i) s' ∧ s'.tree = trees (i + 1)

section Repeats

variable {k i : Nat} {trees : Nat → Tree} {reports : Nat → Report} {unmet : Names}
  (hm : c.mode = .interactive) (hp : c.prompter.Agrees) (hspace : IsName c.project.schema.space)
  (hruns : c.Repeats k trees reports) (hapart : c.Apart (trees 0))
  (hsurvives : ∀ i < k, ∀ printed, c.Saves { tree := trees i } printed →
    printed.module.Survives c.project.schema.library)
include hm hp hspace hruns hsurvives

/-- What each of the runs does. -/
private theorem settles_of_repeats (hi : i < k) (hapart : c.Apart (trees i)) :
    Settles c (trees i) (trees (i + 1)) (reports i) := by
  obtain ⟨s', hcheck, htree⟩ := hruns i hi
  rw [← htree]
  exact settles_of_check (s := { tree := trees i }) hm hp hspace hapart (hsurvives i hi) hcheck

include hapart

/-- **What is lacking after some runs** was lacking at first, and it is less by one name at least for
each of the runs. -/
private theorem exists_lacking (hunmet : ∀ x, x ∈ unmet ↔ c.Lacks (trees 0) x) (hi : i ≤ k) :
    c.Apart (trees i) ∧ ∃ names : Names, (∀ x, x ∈ names ↔ c.Lacks (trees i) x) ∧
      (∀ x ∈ names, x ∈ unmet) ∧ names.toList.length ≤ unmet.toList.length - i := by
  -- by induction on the runs: each takes one name at least from those that were left by the one before
  induction i with
  | zero => exact ⟨hapart, unmet, hunmet, fun _ hx => hx, Nat.le_refl _⟩
  | succ i ih =>
    obtain ⟨hapart', names, hnames, hsub, hlength⟩ := ih (Nat.le_of_succ_le hi)
    have hrun := settles_of_repeats hm hp hspace hruns hsurvives hi hapart'
    obtain ⟨names', hnames', hsub', hlength'⟩ := hrun.exists_fewer hnames
    exact ⟨hrun.apart, names', hnames', fun x hx => hsub x (hsub' x hx), by omega⟩

/-- **A check that is repeated with a user who confirms everything** comes to an end. There are finitely
many names that the schema lacks at first. Each run that finds anything adds one of them at least, and
no other name. After as many runs as there are such names, a check that only reports finds nothing. -/
theorem repeats_settle (hk : 0 < k) : ∃ unmet : Names, (∀ x, x ∈ unmet ↔ c.Lacks (trees 0) x) ∧
    (∀ i < k, ((reports i).Finds → (reports i).added ≠ []) ∧ ∀ x ∈ (reports i).added, x ∈ unmet) ∧
    ∀ i, unmet.toList.length ≤ i → i ≤ k → c.FindsNothing (trees i) := by
  have hsettles {i : Nat} (hi : i < k) (hapart : c.Apart (trees i)) :=
    settles_of_repeats hm hp hspace hruns hsurvives hi hapart
  obtain ⟨unmet, hunmet⟩ := (hsettles hk hapart).finite
  have hlacking {i : Nat} (hi : i ≤ k) := exists_lacking hm hp hspace hruns hapart hsurvives hunmet hi
  refine ⟨unmet, hunmet, fun i hi => ?_, fun i hlength hi => ?_⟩
  · obtain ⟨hapart', names, hnames, hsub, -⟩ := hlacking (Nat.le_of_lt hi)
    have hrun := hsettles hi hapart'
    exact ⟨hrun.added_ne_nil, fun x hx => hsub x ((hnames x).2 (hrun.added x hx))⟩
  · obtain ⟨hapart', names, hnames, -, hless⟩ := hlacking hi
    -- as many runs as there were names have taken them all
    have hempty : names.toList = [] := List.eq_nil_of_length_eq_zero (by omega)
    have hnone : ∀ x, ¬ c.Lacks (trees i) x := fun x hx => by
      have hmem := (hnames x).2 hx
      rw [Names.mem_iff, hempty] at hmem
      exact nomatch hmem
    -- the files are known to be in order before a run and after it
    cases i with
    | zero => exact (hsettles hk hapart).before hnone
    | succ i =>
      obtain ⟨hapart₀, -⟩ := hlacking (Nat.le_of_succ_le hi)
      exact (hsettles hi hapart₀).after hnone

end Repeats

/-! ### Small projects -/

/-- A user who takes what is offered first agrees to everything. -/
theorem Prompter.agrees_willing : Prompter.willing.Agrees := ⟨fun _ _ => rfl, fun _ _ _ _ => rfl⟩

/-- **What the schema lacks**, worked out where a single script is searched. -/
def CheckContext.lackedIn? (c : CheckContext) (t : Tree) (path : String) : Option (List String) := do
  let schema ← (c.schema t).toOption
  let environment ←
    (Project.environment t c.layout.root c.project.environment c.process).toOption
  let files ← (Project.filesEnding t c.layout.sources c.project.scan.exclude "ts").toOption
  let source ← (t.readText path).toOption
  let m ← (Module.parse (.typescript false) source).toOption
  if files = [path] then
    some ((environment.toList ++ m.references).filter fun n => n ∉ schema.declared)
  else none

/-- What is worked out is what the schema lacks. -/
theorem lacks_iff_of_lackedIn? (hextensions : c.user.extensions = ["ts"])
    (hdialect : Project.dialectOf? path = some (.typescript false)) {names : List String}
    (h : c.lackedIn? t path = some names) (x : String) : c.Lacks t x ↔ x ∈ names := by
  have hok {α ε : Type} {r : Except ε α} {a : α} (h : r.toOption = some a) : r = .ok a := by
    cases r <;> cases h
    rfl
  obtain ⟨schema, hschema, h⟩ := Option.bind_eq_some_iff.1 h
  obtain ⟨environment, henvironment, h⟩ := Option.bind_eq_some_iff.1 h
  obtain ⟨files, hfiles, h⟩ := Option.bind_eq_some_iff.1 h
  obtain ⟨source, hread, h⟩ := Option.bind_eq_some_iff.1 h
  obtain ⟨m, hparse, h⟩ := Option.bind_eq_some_iff.1 h
  split at h
  · next hone =>
    obtain rfl := Option.some.inj h
    rw [hone] at hfiles
    have hlisted := Project.sourceFiles_of_one (hok hfiles)
    rw [← hextensions] at hlisted
    -- the single script is all that the check goes through
    have hsees : c.Sees t schema environment [path] := ⟨hok hschema, hok henvironment, hlisted⟩
    have hreads : (∃ p ∈ [path], Project.ReadsIn t p x) ↔ x ∈ m.references := by
      simpa using Project.readsIn_iff_of_parse hdialect (hok hread) (hok hparse)
    rw [hsees.lacks_iff, hreads, List.mem_filter, List.mem_append, decide_eq_true_iff]
    exact and_comm
  · exact nomatch h

/-- Whether a module, its text and the module that is read from it have in common what is asked for. -/
def Script.Module.isKept (m m' : Module) (library text : String) : Bool :=
  (m'.keys.toList == m.keys.toList && m'.imports library == m.imports library) &&
    ((Names.ofList m'.references).toList == (Names.ofList m.references).toList &&
      m.boundNames.all fun x => Project.contains x.toList text.toList)

/-- A module that is kept survives. -/
theorem Script.Module.Survives.of_isKept {m m' : Module} {library : String}
    (hparse : Module.parse m.dialect m.print.1 = .ok m')
    (h : m.isKept m' library m.print.1 = true) : m.Survives library := by
  obtain ⟨hkeys, hreads⟩ := Bool.and_eq_true_iff.1 h
  obtain ⟨hkeys, himports⟩ := Bool.and_eq_true_iff.1 hkeys
  obtain ⟨hreads, hmentions⟩ := Bool.and_eq_true_iff.1 hreads
  have hsame {p : Module → Prop} (hp : p m') (n : Module)
      (hn : Module.parse m.dialect m.print.1 = .ok n) : p n := by
    obtain rfl : m' = n := Except.ok.inj (hparse.symm.trans hn)
    exact hp
  refine ⟨hsame ?_, hsame (eq_of_beq himports), hsame fun x => ?_, List.all_eq_true.1 hmentions⟩
  · exact Names.ext fun x => by rw [Names.mem_iff, Names.mem_iff, eq_of_beq hkeys]
  · rw [← Module.mem_references_iff, ← Module.mem_references_iff, ← Names.mem_ofList, Names.mem_iff,
      eq_of_beq hreads, ← Names.mem_iff, Names.mem_ofList]

/-- **A run is followed** in a project where a single script is searched. The first pass finds nothing,
and the second one a variable, whose field is added. What is written is kept, and the files are as
asked for. -/
def CheckContext.addsOnce (c : CheckContext) (t : Tree) (path name : String) (later : Tree → Bool) :
    Bool :=
  (c.schema t).toOption.any fun schema =>
    (outcome? (checkEnvironment c) ⟨{ tree := t }, schema⟩).any fun ⟨⟨missing, added⟩, between⟩ =>
      (missing.isEmpty && added.isEmpty) &&
        ((Project.filesEnding between.session.tree c.layout.sources c.project.scan.exclude
          "ts").toOption.any (· == [path]) &&
        (Project.undeclaredInAll between.session.tree between.schema.declared [path]).toOption.any
          fun found => found.toList == [name] &&
            (outcome? (do
              sayAll (found.toList.map sourceLine)
              Run.say (missed "Some environment variables are missing in your code!")
              c.fix found : Edit (List String)) between).any fun ⟨_, after⟩ =>
                later after.session.tree &&
                (between.schema.add name (guess name) c.project.schema).toOption.any fun ⟨_, printed⟩ =>
                  (after.session.tree.readText printed.path).toOption.any fun text =>
                    printed.module.isKept after.schema.module c.project.schema.library text)

/-- There is one schema with the field of a name. -/
private theorem eq_of_adds_firstTypes {settings : SchemaSettings} {schema added added' : Schema}
    {name : String} {isAdded : Bool} (h : schema.add name (guess name) settings = .ok (isAdded, added))
    (h' : schema.Adds settings (firstTypes [name]) added') : added' = added := by
  have h' : schema.Adds settings [(name, guess name)] added' := h'
  cases h' with
  | cons hadd hrest =>
    cases hrest
    exact (Prod.mk.inj (Except.ok.inj (h.symm.trans hadd))).2.symm

/-- What is kept when the field of a name is written and read again survives. -/
private theorem survives_of_fix (hm : c.mode = .interactive) (hp : c.prompter.Agrees)
    {e e₁ after : Editing} {found : Names} {added : List String} {name text : String} {isAdded : Bool}
    {printed : Schema} (hprinted : e₁.unprinted = e.unprinted)
    (hload : Schema.load e.session.tree e.schema.path = .ok e.schema)
    (hnew : ∀ x ∈ found, x ∉ e.schema.declared) (hnames : found.toList = [name])
    (hfix : c.fix found e₁ = .ok added after)
    (hadd : e.schema.add name (guess name) c.project.schema = .ok (isAdded, printed))
    (htext : after.session.tree.readText printed.path = .ok text)
    (hkept : printed.module.isKept after.schema.module c.project.schema.library text = true) :
    printed.module.Survives c.project.schema.library := by
  cases saved_of_fix hm hp hprinted hload hnew (.inr hfix) with
  | nothing hempty => exact nomatch hnames.symm.trans hempty
  | written printed' hne hadds hpending hwrite hback =>
    rw [hnames] at hadds
    obtain rfl : printed' = printed := eq_of_adds_firstTypes hadd hadds
    have hpath : printed'.path = e.schema.path := by
      rcases Schema.add_cases hadd with ⟨-, hsame⟩ | ⟨-, hgets⟩
      · rw [hsame]
      · exact hgets.path
    -- the text in the file is what has been printed
    obtain ⟨source, m, hread, -, -⟩ := Schema.load_eq_ok_iff.1 hload
    obtain ⟨t', hwrite', hread'⟩ := Tree.writeText_of_readText hread printed'.print.1
    rw [hpath] at hwrite htext
    rw [← Except.ok.inj (hwrite.symm.trans hwrite')] at hread'
    rw [Except.ok.inj (htext.symm.trans hread')] at hkept
    exact .of_isKept (Schema.readBack_eq_ok hback).2.2.2 hkept

/-- **A run that has been followed**: the schema that it starts from, the state after its first pass, which
finds nothing, the one variable that its second pass finds, the state after that, and the schema with the
field, which is what is printed. -/
structure CheckContext.Follows (c : CheckContext) (t : Tree) (path name : String) (schema : Schema)
    (between : Editing) (found : Names) (added : List String) (after : Editing) (printed : Schema) :
    Prop where
  loaded : c.schema t = .ok schema
  first : checkEnvironment c ⟨{ tree := t }, schema⟩ = .ok ({}, []) between
  listed : Project.filesEnding between.session.tree c.layout.sources c.project.scan.exclude "ts" =
    .ok [path]
  searched : Project.undeclaredInAll between.session.tree between.schema.declared [path] = .ok found
  names : found.toList = [name]
  second : (do
    sayAll (found.toList.map sourceLine)
    Run.say (missed "Some environment variables are missing in your code!")
    c.fix found : Edit (List String)) between = .ok added after
  adds : ∃ isAdded,
    between.schema.add name (guess name) c.project.schema = .ok (isAdded, printed)
  kept : ∃ text, after.session.tree.readText printed.path = .ok text ∧
    printed.module.isKept after.schema.module c.project.schema.library text = true

/-- What is followed is a run. -/
private theorem follows_of_addsOnce {name : String} {later : Tree → Bool}
    (h : c.addsOnce t path name later = true) :
    ∃ schema between found added after printed,
      c.Follows t path name schema between found added after printed ∧
      later after.session.tree = true := by
  -- one test after the other, in the order in which they are made
  obtain ⟨schema, hschema, htest⟩ := exists_ok_of_any h
  obtain ⟨⟨⟨missing, added⟩, between⟩, hfirst, htest⟩ := (Option.any_eq_true _ _).1 htest
  obtain ⟨hnone, htest⟩ := Bool.and_eq_true_iff.1 htest
  obtain ⟨hmissing, hadded⟩ := Bool.and_eq_true_iff.1 hnone
  obtain ⟨hfiles, htest⟩ := Bool.and_eq_true_iff.1 htest
  obtain ⟨found, hfound, htest⟩ := exists_ok_of_any htest
  obtain ⟨hname, htest⟩ := Bool.and_eq_true_iff.1 htest
  obtain ⟨⟨addedThen, after⟩, hsecond, htest⟩ := (Option.any_eq_true _ _).1 htest
  obtain ⟨hlater, htest⟩ := Bool.and_eq_true_iff.1 htest
  obtain ⟨⟨isAdded, printed⟩, hadd, htest⟩ := exists_ok_of_any htest
  obtain ⟨text, htext, hkept⟩ := exists_ok_of_any htest
  obtain rfl : missing = {} := Names.eq_empty_of_isEmpty hmissing
  obtain rfl : added = [] := List.isEmpty_iff.1 hadded
  obtain ⟨files, hfiles, hone⟩ := exists_ok_of_any hfiles
  obtain rfl : files = [path] := eq_of_beq hone
  exact ⟨schema, between, found, addedThen, after, printed,
    { loaded := hschema
      first := outcome?_eq_some_iff.1 hfirst
      listed := hfiles
      searched := hfound
      names := eq_of_beq hname
      second := outcome?_eq_some_iff.1 hsecond
      adds := ⟨isAdded, hadd⟩
      kept := ⟨text, htext, hkept⟩ }, hlater⟩

namespace CheckContext.Follows

variable {name : String} {schema printed : Schema} {between after : Editing} {found : Names}
  {added : List String} (h : c.Follows t path name schema between found added after printed)
include h

/-- A run that has been followed answers. -/
theorem answers (hextensions : c.user.extensions = ["ts"]) :
    ∃ report, check c { tree := t } = .ok report after.session := by
  have hlisted := Project.sourceFiles_of_one h.listed
  rw [← hextensions] at hlisted
  have hne : found.isEmpty = false := by
    rw [Names.isEmpty, h.names]
    rfl
  have hthen := checkSources_of_found (c := c) hlisted h.searched hne h.second
  exact ⟨_, check_of_passes h.loaded h.first hthen⟩

/-- **What is printed survives**, for what has been read again was kept. -/
theorem survives (hm : c.mode = .interactive) (hp : c.prompter.Agrees) :
    printed.module.Survives c.project.schema.library := by
  have hsettled : Schema.load t schema.path = .ok schema := (CheckContext.load_of_schema h.loaded).2
  -- the first pass finds nothing, so that the second one works with what was loaded
  obtain ⟨htree, hsame⟩ :=
    unchanged_of_nothing (e := ⟨{ tree := t }, schema⟩) hm hp hsettled h.first
  have hload : Schema.load between.session.tree between.schema.path = .ok between.schema := by
    rw [htree, hsame]
    exact hsettled
  have hnew : ∀ x ∈ found, x ∉ between.schema.declared :=
    fun x hx => (Project.readsIn_of_mem_undeclaredInAll h.searched hx).2
  obtain ⟨_, e₁, h₁, hsay⟩ := bind_eq_ok_iff.1 h.second
  obtain ⟨_, e₂, h₂, hfix⟩ := bind_eq_ok_iff.1 hsay
  have hprinted : e₂.unprinted = between.unprinted :=
    ((say_keeps _).lift.ok h₂).trans ((sayAll_keeps _).lift.ok h₁)
  obtain ⟨isAdded, hadd⟩ := h.adds
  obtain ⟨text, htext, hkept⟩ := h.kept
  exact survives_of_fix hm hp hprinted hload hnew h.names hfix hadd htext hkept

/-- **What such a run saves** is what has been printed. -/
theorem eq_of_saves (hextensions : c.user.extensions = ["ts"]) {other : Schema}
    (hsaves : c.Saves { tree := t } other) : other = printed := by
  obtain ⟨report, s', schema', environment, first, between', sources, second, final, hpasses, hadds,
    hpending⟩ := hsaves
  -- the passes are the ones that have been followed
  obtain rfl : schema' = schema := Except.ok.inj (hpasses.loaded.symm.trans h.loaded)
  injection hpasses.passed.symm.trans h.first with hanswer hstate
  obtain ⟨hmissing', -⟩ := Prod.mk.inj hanswer
  subst hstate
  have hlisted := Project.sourceFiles_of_one h.listed
  rw [← hextensions] at hlisted
  obtain rfl : sources = [path] := Except.ok.inj (hpasses.listed.symm.trans hlisted)
  have hfound : report.missingInSources = found :=
    Except.ok.inj (hpasses.searched.symm.trans h.searched)
  obtain ⟨isAdded, hadd⟩ := h.adds
  rw [hmissing', hfound, h.names] at hadds
  rcases hadds with hadds | hadds
  · -- nothing is added by the first pass
    refine absurd ?_ hpending
    obtain ⟨source, m, -, -, hs⟩ := Schema.load_eq_ok_iff.1 hpasses.settled
    rw [hadds.pending, hs]
    rfl
  · exact eq_of_adds_firstTypes hadd hadds

end CheckContext.Follows

/-- **A run that has been followed** is one, and what it writes survives. -/
theorem exists_run_of_addsOnce (hm : c.mode = .interactive) (hp : c.prompter.Agrees)
    (hextensions : c.user.extensions = ["ts"]) {name : String} {later : Tree → Bool}
    (h : c.addsOnce t path name later = true) :
    ∃ report s', check c { tree := t } = .ok report s' ∧ later s'.tree = true ∧
      ∀ printed, c.Saves { tree := t } printed →
        printed.module.Survives c.project.schema.library := by
  obtain ⟨schema, between, found, added, after, printed, hfollows, hlater⟩ := follows_of_addsOnce h
  obtain ⟨report, hcheck⟩ := hfollows.answers hextensions
  refine ⟨report, after.session, hcheck, hlater, fun other hsaves => ?_⟩
  rw [hfollows.eq_of_saves hextensions hsaves]
  exact hfollows.survives hm hp

/-- Such a run, as a check that is made once. -/
theorem exists_repeats_of_addsOnce (hm : c.mode = .interactive) (hp : c.prompter.Agrees)
    (hextensions : c.user.extensions = ["ts"]) {name : String} {later : Tree → Bool}
    (h : c.addsOnce t path name later = true) :
    ∃ (trees : Nat → Tree) (reports : Nat → Report), trees 0 = t ∧ c.Repeats 1 trees reports ∧
      later (trees 1) = true ∧ ∀ i < 1, ∀ printed, c.Saves { tree := trees i } printed →
        printed.module.Survives c.project.schema.library := by
  obtain ⟨report, s', hcheck, hlater, hsurvives⟩ := exists_run_of_addsOnce hm hp hextensions h
  refine ⟨fun i => if i = 0 then t else s'.tree, fun _ => report, rfl, fun i hi => ?_, hlater,
    fun i hi => ?_⟩
  · obtain rfl : i = 0 := Nat.lt_one_iff.1 hi
    exact ⟨s', hcheck, rfl⟩
  · obtain rfl : i = 0 := Nat.lt_one_iff.1 hi
    exact hsurvives

/-- A project with an empty schema and a source that reads a variable. -/
def loneTree : Tree :=
  (Tree.empty.withFile ["app", "src", "env", "schema.mjs"]
    (.text "import \"zod\"; const s = z.object(\x7b\x7d);")).withFile
    ["app", "src", "page.ts"] (.text "process.env.A")

/-- A check of that project, which runs with no variables. -/
def loneCheck : CheckContext where
  layout := ⟨"/app", "/app/src", "/app/src/env"⟩
  project := { schema := { object := "s" } }
  user := { extensions := ["ts"] }
  prompter := .willing

set_option maxRecDepth 20000 in
/-- What is missing in that project, and what a check of it does. -/
private theorem lone_addsOnce : loneCheck.lackedIn? loneTree "/app/src/page.ts" = some ["A"] ∧
    loneCheck.addsOnce loneTree "/app/src/page.ts" "A" (fun _ => true) = true := by
  decide +kernel

/-- One run is enough for that project, in which one name is missing. -/
theorem repeats_settle_lone : ∃ (trees : Nat → Tree) (reports : Nat → Report), trees 0 = loneTree ∧
    loneCheck.mode = .interactive ∧ loneCheck.prompter.Agrees ∧
    IsName loneCheck.project.schema.space ∧ loneCheck.Repeats 1 trees reports ∧
    loneCheck.Apart (trees 0) ∧
    (∀ i < 1, ∀ printed, loneCheck.Saves { tree := trees i } printed →
      printed.module.Survives loneCheck.project.schema.library) ∧
    (∀ x, loneCheck.Lacks (trees 0) x ↔ x = "A") ∧
    loneCheck.FindsNothing (trees 1) := by
  obtain ⟨hlacked, hadds⟩ := lone_addsOnce
  obtain ⟨trees, reports, htree, hruns, -, hsurvives⟩ :=
    exists_repeats_of_addsOnce rfl Prompter.agrees_willing rfl hadds
  have hlacks (x : String) : loneCheck.Lacks (trees 0) x ↔ x = "A" := by
    rw [htree, lacks_iff_of_lackedIn? rfl (by decide +kernel) hlacked, List.mem_singleton]
  have hapart : loneCheck.Apart (trees 0) := nofun
  obtain ⟨unmet, hunmet, -, hsettled⟩ :=
    repeats_settle rfl Prompter.agrees_willing isName_z hruns hapart hsurvives Nat.one_pos
  obtain rfl : unmet = .ofList ["A"] := Names.ext fun x => by
    rw [hunmet, hlacks, Names.mem_ofList, List.mem_singleton]
  exact ⟨trees, reports, htree, rfl, Prompter.agrees_willing, isName_z, hruns, hapart, hsurvives, hlacks,
    hsettled 1 (by decide) (Nat.le_refl 1)⟩

/-- **A check that finds nothing** lacks nothing. -/
theorem CheckContext.FindsNothing.not_lacks (h : c.FindsNothing t) (x : String) : ¬ c.Lacks t x := by
  obtain ⟨report, s', hcheck, hnone⟩ := h
  have hscanned : c.reporting.scanned t = .ok report :=
    (check_decides (c := c.reporting) rfl { tree := t }).answers_iff.1 ⟨s', hcheck⟩
  obtain ⟨schema, environment, sources, missing, hsees, hmissing, rfl⟩ := scanned_eq_ok_iff.1 hscanned
  -- a check that only reports goes through the same things as the check itself
  have hsees : c.Sees t schema environment sources := ⟨hsees.schema, hsees.environment, hsees.sources⟩
  rw [hsees.lacks_iff]
  rintro ⟨hnot, henvironment | ⟨path, hpath, hreads⟩⟩
  · exact hnone (.inl ⟨x, Names.mem_without.2 ⟨henvironment, hnot⟩⟩)
  · have hall := (Project.undeclaredInAll_empty_iff hmissing).1 fun y hy => hnone (.inr ⟨y, hy⟩)
    exact hnot (hall path hpath x hreads)

/-- **One name is missing, and it is not enough to run the check once**: everything is confirmed, and
what is written survives, but something is missing afterwards. -/
def CheckContext.Unsettled (c : CheckContext) (t : Tree) : Prop :=
  ∃ (trees : Nat → Tree) (reports : Nat → Report), trees 0 = t ∧ c.mode = .interactive ∧
    c.prompter.Agrees ∧ c.Repeats 1 trees reports ∧
    (∀ i < 1, ∀ printed, c.Saves { tree := trees i } printed →
      printed.module.Survives c.project.schema.library) ∧
    (∃ unmet : Names, (∀ x, x ∈ unmet ↔ c.Lacks (trees 0) x) ∧ unmet.toList.length = 1) ∧
    ¬ c.FindsNothing (trees 1)

/-- Such a project, where what is missing has been worked out. -/
private theorem unsettled_of_addsOnce (hmode : c.mode = .interactive) (hagrees : c.prompter.Agrees)
    (hextensions : c.user.extensions = ["ts"])
    (hdialect : Project.dialectOf? path = some (.typescript false)) {name : String}
    (hlacked : c.lackedIn? t path = some [name]) {names : List String} (hne : names ≠ [])
    (hadds : c.addsOnce t path name (fun t' => c.lackedIn? t' path == some names) = true) :
    c.Unsettled t := by
  obtain ⟨trees, reports, htree, hruns, hlater, hsurvives⟩ :=
    exists_repeats_of_addsOnce hmode hagrees hextensions hadds
  refine ⟨trees, reports, htree, hmode, hagrees, hruns, hsurvives, ⟨.ofList [name], fun x => ?_, rfl⟩,
    fun hnothing => ?_⟩
  · rw [htree, lacks_iff_of_lackedIn? hextensions hdialect hlacked, Names.mem_ofList]
  · -- a name that is lacking afterwards would have been found
    obtain ⟨x, hx⟩ := List.exists_mem_of_ne_nil _ hne
    refine hnothing.not_lacks x ?_
    exact (lacks_iff_of_lackedIn? hextensions hdialect (eq_of_beq hlater) x).2 hx

/-- A project in which the schema is in a file that may set variables. None of its lines sets one, for
the only one with an equals sign starts with a hash. -/
def dotenvTree : Tree :=
  (Tree.empty.withFile ["app", ".env"]
    (.text "import \"zod\"; class C \x7b\n#f = () => \x7b const s = z.object(\x7b\x7d) \x7d \x7d")).withFile
    ["app", "src", "env", "page.ts"] (.text "process.env.A")

/-- A check of that project with the variables that its files set. -/
def dotenvCheck : CheckContext :=
  { loneCheck with
    project := { schema := { file := some "../../.env", object := "s" },
                 environment := { source := .files } } }

/-- A project in which the library goes by an expression that reads a variable, spelt with escapes. -/
def spelledTree : Tree :=
  Tree.empty.withFile ["app", "src", "env", "schema.ts"]
    (.text ("import \"zod\"; const f = <T,>() => \x7b " ++
      "const s = process\\u002eenv\\u002eX.object(\x7b\x7d) \x7d; process.env.A"))

/-- A check of that project. -/
def spelledCheck : CheckContext :=
  { loneCheck with
    project := { schema := { file := some "schema.ts", object := "s", space := "process.env.X" } } }

set_option maxRecDepth 20000 in
/-- What is missing in the first of the two projects, before and after a check. -/
private theorem dotenv_addsOnce :
    dotenvCheck.lackedIn? dotenvTree "/app/src/env/page.ts" = some ["A"] ∧
      dotenvCheck.addsOnce dotenvTree "/app/src/env/page.ts" "A" (fun t =>
        dotenvCheck.lackedIn? t "/app/src/env/page.ts" == some ["const s"]) = true := by
  decide +kernel

set_option maxRecDepth 20000 in
/-- What is missing in the second one. -/
private theorem spelled_addsOnce :
    spelledCheck.lackedIn? spelledTree "/app/src/env/schema.ts" = some ["A"] ∧
      spelledCheck.addsOnce spelledTree "/app/src/env/schema.ts" "A" (fun t =>
        spelledCheck.lackedIn? t "/app/src/env/schema.ts" == some ["X", "X"]) = true := by
  decide +kernel

/-- **Nothing need be settled** after as many runs as names were missing: where the schema's file sets
variables, what is written into it may set one more; and where the library goes by no identifier, its
fields may read a variable. -/
theorem repeats_unsettled :
    (dotenvCheck.Unsettled dotenvTree ∧ IsName dotenvCheck.project.schema.space) ∧
    spelledCheck.Unsettled spelledTree ∧ spelledCheck.Apart spelledTree := by
  obtain ⟨hlacked, hadds⟩ := dotenv_addsOnce
  obtain ⟨hlacked', hadds'⟩ := spelled_addsOnce
  refine ⟨⟨?_, isName_z⟩, ?_, nofun⟩
  · exact unsettled_of_addsOnce rfl Prompter.agrees_willing rfl (by decide +kernel) hlacked
      (List.cons_ne_nil _ _) hadds
  · exact unsettled_of_addsOnce rfl Prompter.agrees_willing rfl (by decide +kernel) hlacked'
      (List.cons_ne_nil _ _) hadds'

end EnvSchema
