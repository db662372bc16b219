import EnvSchema.Project.Tasks
import EnvSchema.Proofs.Project.Sources
import Mathlib.Logic.Function.Iterate

/-!
# What comes of searching files at the same time

The order in which the tasks take turns does not matter, for a task hears of nothing but the files.
What will come of it is settled before its first turn, and no turn changes it:

* `Task.outcome`, `Task.outcome_turn` — what will come of a task;
* `Pool.getElem?_after` — what the turns of all tasks do to one of them;
* `Pool.gathered_of_answer?`, `Pool.answer?_after` — what is found is what one search after the other
  finds, and it is known as soon as every task has had two turns;
* `Fails`, `undeclaredInAll_eq_error_iff` — the files that cannot be searched, and the one that is
  reported;
* `undeclaredInAll_congr`, `undeclaredInAll_append_eq_ok_iff` — other orders, and more files;
* `answer_in_any_order` — all of this together.
-/

namespace EnvSchema.Project

open Files (Tree)

variable {t : Tree} {declared missing : Names} {path name : String} {paths others : List String}

/-! ### One task -/

namespace Task

/-- **What will come of a task.** -/
def outcome (t : Tree) (declared : Names) (task : Task) : Except Failure (Option String) :=
  match task.stage with
  | .waiting => undeclaredIn t declared task.path
  | .opened dialect source => search task.path declared dialect source
  | .ended found => found

/-- The number of turns that a task still has to have. -/
def remaining (task : Task) : Nat :=
  match task.stage with
  | .waiting => 2
  | .opened _ _ => 1
  | .ended _ => 0

/-- **A turn does not change what will come of a task.** -/
theorem outcome_turn (task : Task) :
    (task.turn t declared).outcome t declared = task.outcome t declared := by
  obtain ⟨path, stage⟩ := task
  cases stage with
  | waiting =>
    simp only [turn, outcome, undeclaredIn]
    cases (Files.extension? path).bind Script.Dialect.ofExtension? with
    | none => rfl
    | some dialect => cases Files.orFailAt .read path (t.readText path) <;> rfl
  | opened dialect source => rfl
  | ended found => rfl

/-- A turn brings a task closer to its end. -/
theorem remaining_turn_le (t : Tree) (declared : Names) (task : Task) :
    (task.turn t declared).remaining ≤ task.remaining - 1 := by
  obtain ⟨path, stage⟩ := task
  -- a turn of a task that waits opens the file or ends at once; one of an open task ends it
  cases stage with
  | waiting =>
    simp only [turn, remaining]
    cases (Files.extension? path).bind Script.Dialect.ofExtension? with
    | none => exact Nat.zero_le _
    | some dialect =>
      cases Files.orFailAt .read path (t.readText path) with
      | error f => exact Nat.zero_le _
      | ok source => exact Nat.le_refl _
  | opened dialect source => exact Nat.le_refl _
  | ended found => exact Nat.le_refl _

theorem outcome_iterate_turn (task : Task) (n : Nat) :
    ((turn t declared)^[n] task).outcome t declared = task.outcome t declared := by
  induction n with
  | zero => rfl
  | succ n ih => rw [Function.iterate_succ_apply', outcome_turn, ih]

theorem remaining_iterate_turn_le (t : Tree) (declared : Names) (task : Task) (n : Nat) :
    ((turn t declared)^[n] task).remaining ≤ task.remaining - n := by
  induction n with
  | zero => exact Nat.le_refl _
  | succ n ih =>
    rw [Function.iterate_succ_apply']
    have hturn := remaining_turn_le t declared ((turn t declared)^[n] task)
    omega

/-- A task that is over has come to what was to come of it. -/
theorem outcome_of_found? {task : Task} {found : Except Failure (Option String)}
    (h : task.found? = some found) : task.outcome t declared = found := by
  obtain ⟨path, stage⟩ := task
  cases stage with
  | waiting => exact nomatch h
  | opened dialect source => exact nomatch h
  | ended found' => exact Option.some.inj h

/-- A task that needs no more turns is over. -/
theorem found?_of_remaining {task : Task} (h : task.remaining = 0) :
    task.found? = some (task.outcome t declared) := by
  obtain ⟨path, stage⟩ := task
  cases stage with
  | waiting => exact nomatch h
  | opened dialect source => exact nomatch h
  | ended found => rfl

end Task

/-! ### All tasks -/

namespace Pool

variable {pool : Pool} {turns : List Nat}

/-- **What all turns do to one task** is what its own turns do, however many others came between. -/
theorem getElem?_after (i : Nat) :
    (pool.after t declared turns)[i]? = pool[i]?.map (Task.turn t declared)^[turns.count i] := by
  induction turns generalizing pool with
  | nil => simp [after]
  | cons j turns ih =>
    have hcons : pool.after t declared (j :: turns) =
        Pool.after t declared (pool.modify j (Task.turn t declared)) turns := rfl
    rw [hcons, ih, List.getElem?_modify, List.count_cons]
    by_cases hj : j = i
    · simp [hj, Option.map_map, Function.comp_def]
    · simp [hj]

/-- No turn changes what will come of the tasks. -/
theorem outcomes_after :
    (pool.after t declared turns).map (Task.outcome t declared) =
      pool.map (Task.outcome t declared) := by
  refine List.ext_getElem? fun i => ?_
  rw [List.getElem?_map, List.getElem?_map, getElem?_after, Option.map_map]
  congr 1
  funext task
  exact Task.outcome_iterate_turn task _

/-- What will come of the tasks of some files is what is found in the files. -/
theorem outcomes_start :
    (start paths).map (Task.outcome t declared) = paths.map (undeclaredIn t declared) := by
  rw [start, List.map_map]
  rfl

/-- Gathering what is found in the files is searching them one after the other. -/
theorem gathered_map : gathered (paths.map (undeclaredIn t declared)) =
    undeclaredInAll t declared paths := by
  rw [gathered, List.mapM_map]
  rfl

/-- What is known of the tasks is what comes of them. -/
theorem gathered_of_answer? (t : Tree) (declared : Names) {answer : Except Failure Names}
    (h : pool.answer? = some answer) :
    gathered (pool.map (Task.outcome t declared)) = answer := by
  obtain ⟨found, hfound, rfl⟩ := Option.map_eq_some_iff.1 h
  suffices hall : pool.map (Task.outcome t declared) = found by rw [hall]
  clear h
  -- there is an answer only when every task has ended, and what a task ended with is its outcome
  induction pool generalizing found with
  | nil =>
    rw [List.mapM_nil] at hfound
    exact Option.some.inj hfound
  | cons task pool ih =>
    rw [List.mapM_cons] at hfound
    obtain ⟨first, hfirst, hfound⟩ := Option.bind_eq_some_iff.1 hfound
    obtain ⟨rest, hrest, hfound⟩ := Option.bind_eq_some_iff.1 hfound
    cases hfound
    rw [List.map_cons, Task.outcome_of_found? hfirst, ih rest hrest]

/-- Once no task needs more turns, what comes of them is known. -/
theorem answer?_of_remaining (t : Tree) (declared : Names) (h : ∀ task ∈ pool, task.remaining = 0) :
    pool.answer? = some (gathered (pool.map (Task.outcome t declared))) := by
  suffices hall : pool.mapM Task.found? = some (pool.map (Task.outcome t declared)) by
    rw [answer?, hall, Option.map_some]
  induction pool with
  | nil => rfl
  | cons task pool ih =>
    obtain ⟨hfirst, hrest⟩ := List.forall_mem_cons.1 h
    rw [List.mapM_cons, Task.found?_of_remaining hfirst, ih hrest]
    rfl

/-- What is known after some turns is what one search after the other finds. -/
theorem eq_of_answer? {answer : Except Failure Names}
    (h : ((start paths).after t declared turns).answer? = some answer) :
    answer = undeclaredInAll t declared paths := by
  rw [← gathered_of_answer? t declared h, outcomes_after, outcomes_start,
    gathered_map]

/-- **Two turns for every task are enough**, in whatever order they come. -/
theorem answer?_after (h : ∀ i < paths.length, 2 ≤ turns.count i) :
    ((start paths).after t declared turns).answer? = some (undeclaredInAll t declared paths) := by
  -- a task needs two turns at most, and each of these has had them
  have hover : ∀ task ∈ (start paths).after t declared turns, task.remaining = 0 := by
    intro task htask
    obtain ⟨i, hi⟩ := List.mem_iff_getElem?.1 htask
    rw [getElem?_after] at hi
    obtain ⟨first, hfirst, rfl⟩ := Option.map_eq_some_iff.1 hi
    rw [start, List.getElem?_map] at hfirst
    obtain ⟨path, hpath, rfl⟩ := Option.map_eq_some_iff.1 hfirst
    have hturns := h i (List.getElem?_eq_some_iff.1 hpath).1
    have hleft := Task.remaining_iterate_turn_le t declared
      ({ path := path } : Task) (turns.count i)
    have hfull : ({ path := path } : Task).remaining = 2 := rfl
    omega
  rw [answer?_of_remaining t declared hover, outcomes_after, outcomes_start,
    gathered_map]

end Pool

/-! ### The file that is reported -/

/-- **A file cannot be searched**, and why: it is a script by its name, but cannot be read, or what
is read is not a script. -/
inductive Fails (t : Tree) (path : String) : Failure → Prop
  | unread {dialect : Script.Dialect} {fault : Files.Fault} : dialectOf? path = some dialect →
      t.readText path = .error fault → Fails t path (.file (some (.read, path)) fault)
  | unparsed {dialect : Script.Dialect} {source : String} {complaint : Script.Complaint} :
      dialectOf? path = some dialect → t.readText path = .ok source →
      Script.Module.parse dialect source = .error complaint → Fails t path (.script path complaint)

/-- A search fails just if the file cannot be searched, and for that reason. -/
theorem undeclaredIn_eq_error_iff {f : Failure} :
    undeclaredIn t declared path = .error f ↔ Fails t path f := by
  unfold undeclaredIn
  have hdialect : (Files.extension? path).bind Script.Dialect.ofExtension? = dialectOf? path := rfl
  rw [hdialect]
  -- a file fails for one of two reasons: it cannot be read, or what is read cannot be parsed
  constructor
  · intro h
    cases hd : dialectOf? path with
    | none => simp [hd] at h
    | some dialect =>
      simp only [hd, except_bind_eq_error_iff, Files.orFailAt, mapError_eq_error_iff,
        mapError_eq_ok_iff] at h
      rcases h with ⟨fault, hs, rfl⟩ | ⟨source, hs, ⟨complaint, hm, rfl⟩ | ⟨m, -, h⟩⟩
      · exact .unread hd hs
      · exact .unparsed hd hs hm
      · cases h
  · intro h
    cases h with
    | unread hd hs =>
      simp only [hd]
      exact except_bind_eq_error_iff.2 (.inl (by rw [hs]; rfl))
    | unparsed hd hs hm =>
      simp only [hd]
      refine except_bind_eq_error_iff.2 (.inr ⟨_, by rw [hs]; rfl, ?_⟩)
      exact except_bind_eq_error_iff.2 (.inl (by rw [hm]; rfl))

/-- **The first file that cannot be searched is reported**, in the order of the list. -/
theorem undeclaredInAll_eq_error_iff {f : Failure} : undeclaredInAll t declared paths = .error f ↔
    ∃ before path behind, paths = before ++ path :: behind ∧
      (∀ other ∈ before, Searchable t other) ∧ Fails t path f := by
  unfold undeclaredInAll
  rw [except_bind_eq_error_iff, mapM_eq_error_iff]
  simp only [exists_undeclaredIn_iff, undeclaredIn_eq_error_iff]
  constructor
  · rintro (h | ⟨found, -, h⟩)
    · exact h
    · exact nomatch h
  · exact .inl

/-! ### Other orders, and more files -/

/-- **A file has a first undeclared variable**: it is a script, and that variable is the first one
that it reads and the set lacks. -/
def FirstUndeclared (t : Tree) (declared : Names) (path name : String) : Prop :=
  ∃ dialect source m, dialectOf? path = some dialect ∧ t.readText path = .ok source ∧
    Script.Module.parse dialect source = .ok m ∧ m.firstUndeclared declared = some name

/-- What is found in a file is its first undeclared variable. -/
theorem undeclaredIn_eq_some_iff :
    undeclaredIn t declared path = .ok (some name) ↔ FirstUndeclared t declared path name := by
  rw [undeclaredIn_eq_ok_iff, FirstUndeclared]
  simp

/-- **The first undeclared variables of some files** are found just if all files can be searched. -/
theorem undeclaredInAll_eq_ok_iff : undeclaredInAll t declared paths = .ok missing ↔
    (∀ path ∈ paths, Searchable t path) ∧
      ∀ name, name ∈ missing ↔ ∃ path ∈ paths, FirstUndeclared t declared path name := by
  simp only [← undeclaredIn_eq_some_iff]
  constructor
  · intro h
    exact ⟨exists_undeclaredInAll_iff.1 ⟨missing, h⟩, fun name => mem_undeclaredInAll h⟩
  · rintro ⟨hall, hmissing⟩
    have hsome : ∃ found, undeclaredInAll t declared paths = .ok found :=
      exists_undeclaredInAll_iff.2 hall
    obtain ⟨found, hfound⟩ := hsome
    -- a set of names is told by its members
    have hsame : found = missing :=
      Names.ext fun name => (mem_undeclaredInAll hfound).trans (hmissing name).symm
    rw [hfound, hsame]

/-- **Neither the order of the files nor how often one is listed matters** where all of them can be
searched. -/
theorem undeclaredInAll_congr (h : ∀ path, path ∈ others ↔ path ∈ paths) :
    undeclaredInAll t declared others = .ok missing ↔
      undeclaredInAll t declared paths = .ok missing := by
  simp only [undeclaredInAll_eq_ok_iff, h]

/-- **More files have what they have together.** -/
theorem undeclaredInAll_append_eq_ok_iff :
    undeclaredInAll t declared (paths ++ others) = .ok missing ↔
      ∃ first second, undeclaredInAll t declared paths = .ok first ∧
        undeclaredInAll t declared others = .ok second ∧
        ∀ name, name ∈ missing ↔ name ∈ first ∨ name ∈ second := by
  -- both sides say that all files can be searched and which names are found in them
  constructor
  · intro h
    obtain ⟨hall, hmissing⟩ := undeclaredInAll_eq_ok_iff.1 h
    obtain ⟨hpaths, hothers⟩ := List.forall_mem_append.1 hall
    have hfirst : ∃ first, undeclaredInAll t declared paths = .ok first :=
      exists_undeclaredInAll_iff.2 hpaths
    have hsecond : ∃ second, undeclaredInAll t declared others = .ok second :=
      exists_undeclaredInAll_iff.2 hothers
    obtain ⟨first, hfirst⟩ := hfirst
    obtain ⟨second, hsecond⟩ := hsecond
    refine ⟨first, second, hfirst, hsecond, fun name => ?_⟩
    rw [hmissing, (undeclaredInAll_eq_ok_iff.1 hfirst).2, (undeclaredInAll_eq_ok_iff.1 hsecond).2]
    simp only [List.mem_append, or_and_right, exists_or]
  · rintro ⟨first, second, hfirst, hsecond, hmissing⟩
    obtain ⟨hpaths, hfirst⟩ := undeclaredInAll_eq_ok_iff.1 hfirst
    obtain ⟨hothers, hsecond⟩ := undeclaredInAll_eq_ok_iff.1 hsecond
    refine undeclaredInAll_eq_ok_iff.2 ⟨List.forall_mem_append.2 ⟨hpaths, hothers⟩, fun name => ?_⟩
    rw [hmissing, hfirst, hsecond]
    simp only [List.mem_append, or_and_right, exists_or]

/-! ### All of it -/

/-- **The order in which files are searched does not matter.** Once every task has had two turns, in
whatever order, it is known what is found; and what is known after any turns is what one search after
the other finds. That is a failure just if some file cannot be searched, and then why the first one
in the list cannot be; else it is the set of the first undeclared variables of the files. That set is
the same for files in another order or listed again, and more files have what they have together. -/
theorem answer_in_any_order (t : Tree) (declared : Names) (paths : List String) :
    (∀ turns : List Nat, (∀ i < paths.length, 2 ≤ turns.count i) →
        ((Pool.start paths).after t declared turns).answer? = some (undeclaredInAll t declared paths)) ∧
      (∀ turns answer, ((Pool.start paths).after t declared turns).answer? = some answer →
        answer = undeclaredInAll t declared paths) ∧
      (∀ f, undeclaredInAll t declared paths = .error f ↔
        ∃ before path behind, paths = before ++ path :: behind ∧
          (∀ other ∈ before, Searchable t other) ∧ Fails t path f) ∧
      (∀ missing, undeclaredInAll t declared paths = .ok missing ↔
        (∀ path ∈ paths, Searchable t path) ∧
          ∀ name, name ∈ missing ↔ ∃ path ∈ paths, FirstUndeclared t declared path name) ∧
      (∀ others : List String, (∀ path, path ∈ others ↔ path ∈ paths) →
        ∀ missing, undeclaredInAll t declared others = .ok missing ↔
          undeclaredInAll t declared paths = .ok missing) ∧
      ∀ (others : List String) (missing : Names),
        undeclaredInAll t declared (paths ++ others) = .ok missing ↔
          ∃ first second, undeclaredInAll t declared paths = .ok first ∧
            undeclaredInAll t declared others = .ok second ∧
            ∀ name, name ∈ missing ↔ name ∈ first ∨ name ∈ second :=
  ⟨fun _ => Pool.answer?_after, fun _ _ => Pool.eq_of_answer?, fun _ => undeclaredInAll_eq_error_iff,
    fun _ => undeclaredInAll_eq_ok_iff, fun _ h _ => undeclaredInAll_congr h,
    fun _ _ => undeclaredInAll_append_eq_ok_iff⟩

/-- Neither of two files is there. The search of the second one ends first, and what is reported is
the first one all the same. -/
theorem answer_of_two_unread :
    ((Pool.start ["/a.ts", "/b.ts"]).after .empty {} [1, 1, 0, 0]).answer? =
      some (.error (.file (some (.read, "/a.ts")) .notFound)) := by
  obtain ⟨hknown, -, hfails, -⟩ := answer_in_any_order .empty {} ["/a.ts", "/b.ts"]
  have hunread : Fails .empty "/a.ts" (.file (some (.read, "/a.ts")) .notFound) :=
    .unread (by decide +kernel : dialectOf? "/a.ts" = some (.typescript false)) rfl
  rw [hknown [1, 1, 0, 0] (by decide), (hfails _).2 ⟨[], "/a.ts", ["/b.ts"], rfl, by simp, hunread⟩]

end EnvSchema.Project
