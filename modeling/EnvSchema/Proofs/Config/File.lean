import EnvSchema.Proofs.Config.Decoding
import EnvSchema.Proofs.Files.Writing
import EnvSchema.Proofs.Runs

/-!
# Settings that are saved are loaded

A project keeps the settings that have been saved last. What has been saved before makes no difference,
and neither does what has been loaded; giving a project the defaults saves them, unless there are settings
that must not be lost. The file is written over each time, so it always holds the text of the settings that
are kept, and that text is decoded into what it is the text of.

* `decodeProject_encodeProject` — the text of settings is decoded into these settings;
* `Act`, `after`, `kept` — what is done with the settings of a project, and what it keeps of it;
* `Stands` — a file that holds what is kept;
* `loadProject_after` — what is loaded after whatever has been done.
-/

namespace EnvSchema.Config

open Data.Toml (Setting Writable)
open Files (Tree join)

/-! ### The text of settings -/

/-- The tables that settings are written as. -/
def projectTables (p : ProjectSettings) : List (String × List (String × Setting)) :=
  [ ("schema", schemaEntries p.schema), ("env", environmentEntries p.environment)
  , ("scan", scanEntries p.scan) ]

/-- The keys that are written in a table. The schema's file is left out where it is not named. -/
def writtenKeys : List (List String) :=
  [ ["env_dir", "server_schema", "library", "namespace"]
  , ["env_dir", "schema_file", "server_schema", "library", "namespace"]
  , ["source", "ignore"], ["source_dir", "exclude"] ]

private theorem map_fst_mem {p : ProjectSettings} {table : String × List (String × Setting)}
    (h : table ∈ projectTables p) : table.2.map (·.1) ∈ writtenKeys := by
  rw [projectTables, List.mem_cons, List.mem_cons, List.mem_singleton] at h
  rcases h with rfl | rfl | rfl
  · cases hfile : p.schema.file <;> simp [writtenKeys, schemaEntries, hfile]
  · simp [writtenKeys, environmentEntries]
  · simp [writtenKeys, scanEntries]

theorem writable_projectTables (p : ProjectSettings) : Writable (projectTables p) where
  names := by
    simp only [projectTables, List.forall_mem_cons]
    decide
  distinct := (by decide : ["schema", "env", "scan"].Nodup)
  keys table htable s hs := by
    have hbare : ∀ keys ∈ writtenKeys, ∀ key ∈ keys, Data.Toml.IsBare key := by decide
    exact hbare _ (map_fst_mem htable) s.1 (List.mem_map_of_mem hs)
  keysDistinct table htable := by
    have hdistinct : ∀ keys ∈ writtenKeys, keys.Nodup := by decide
    exact hdistinct _ (map_fst_mem htable)

theorem written_projectTables (p : ProjectSettings) (choice : Choice) :
    written (projectTables p) choice = choice.setting? p := by
  cases hfile : p.schema.file <;> cases choice <;>
    simp [written, projectTables, schemaEntries, environmentEntries, scanEntries, Choice.group, Choice.key,
      Choice.setting?, List.lookup_cons, hfile]

/-- Settings of which all are chosen that have a value. -/
theorem mixed_isSome (p : ProjectSettings) : mixed p (fun choice => (choice.setting? p).isSome) = p := by
  obtain ⟨⟨_, _ | _, _, _, _⟩, _, _⟩ := p <;> rfl

/-- **The text of settings** is decoded into these settings, whatever they are. -/
theorem decodeProject_encodeProject (p : ProjectSettings) : decodeProject (encodeProject p) = .ok p := by
  have hwritten (choice : Choice) : written (projectTables p) choice =
      if (choice.setting? p).isSome then choice.setting? p else none := by
    rw [written_projectTables]
    split
    · rfl
    · next hnone => exact Option.not_isSome_iff_eq_none.1 hnone
  have hdecode := decodeProject_written (writable_projectTables p) hwritten fun _ h => h
  rwa [mixed_isSome] at hdecode

/-! ### What is done with settings -/

/-- **What is done with the settings of a project.** -/
inductive Act where
  | save (p : ProjectSettings)
  | setUp (force : Bool)
  | load

/-- It is done in a folder. -/
def Act.run (folder : String) : Act → Run Unit
  | save p => Run.change (saveProject p folder)
  | setUp force => Config.setUp folder force
  | load => do let _ ← Run.look fun t => loadProject t folder

/-- **What is left** where one thing after the other has been done, whether it could be done or not. -/
def after (folder : String) (acts : List Act) (s : Session) : Session :=
  acts.foldl (fun s act => leftBy (act.run folder) s) s

/-- What is kept of what has been kept before: what is saved last. The defaults take no place that is
taken, unless they are forced to. -/
def keptBy (kept : Option ProjectSettings) : Act → Option ProjectSettings
  | .save p => some p
  | .setUp force => if kept.isSome && !force then kept else some {}
  | .load => kept

/-- **The settings that are kept** where there have been none. -/
def kept (acts : List Act) : Option ProjectSettings := acts.foldl keptBy none

/-! ### Files that hold what is kept -/

/-- **A file holds the settings that are kept**, or there is none and one can be written. -/
def Stands (folder : String) (t : Tree) : Option ProjectSettings → Prop
  | none => t.exists? (join folder fileName) = false ∧
      ∀ text, ∃ t', t.writeText (join folder fileName) text = .ok t'
  | some p => t.readText (join folder fileName) = .ok (encodeProject p)

namespace Stands

variable {folder : String} {t : Tree} {p : ProjectSettings} {k : Option ProjectSettings} {s : Session}

theorem exists?_eq (h : Stands folder t k) : t.exists? (join folder fileName) = k.isSome := by
  cases k with
  | none => exact h.1
  | some p =>
    obtain ⟨w, hw, -⟩ := Tree.readText_eq_ok_iff.1 h
    exact Tree.exists?_of_way hw

/-- What is kept is loaded. -/
theorem loadProject_eq (h : Stands folder t k) : loadProject t folder = .ok k := by
  cases k with
  | none =>
    rw [loadProject, if_neg (by simp [h.1])]
  | some p =>
    rw [loadProject_of_readText h, decodeProject_encodeProject]
    rfl

/-- What is saved is kept from then on. -/
theorem saveProject (h : Stands folder t k) (p : ProjectSettings) :
    ∃ t', saveProject p folder t = .ok t' ∧ Stands folder t' (some p) := by
  obtain ⟨t', hwrite⟩ : ∃ t', t.writeText (join folder fileName) (encodeProject p) = .ok t' := by
    cases k with
    | none => exact h.2 _
    | some q => exact (Tree.writeText_of_readText h _).imp fun _ hwrite => hwrite.1
  refine ⟨t', ?_, Tree.readText_of_writeText hwrite⟩
  rw [Config.saveProject, hwrite]
  rfl

theorem save (h : Stands folder s.tree k) (p : ProjectSettings) :
    ∃ s', (Act.save p).run folder s = .ok () s' ∧ Stands folder s'.tree (some p) := by
  obtain ⟨t', hsave, hstands⟩ := h.saveProject p
  refine ⟨{ s with tree := t' }, ?_, hstands⟩
  rw [Act.run, Run.change_apply, hsave]

/-- The defaults are not saved where there are settings that must not be lost. -/
theorem setUp_refused (h : Stands folder s.tree k) (hkept : k.isSome) :
    setUp folder false s = .error .settingsExist s := by
  have hthere := h.exists?_eq.trans hkept
  have hget : (get : Run Session) s = .ok s s := rfl
  rw [setUp, bind_of_ok hget]
  dsimp only
  rw [if_pos (by simp [hthere])]
  rfl

theorem setUp (h : Stands folder s.tree k) {force : Bool} (hforce : k = none ∨ force = true) :
    ∃ s', setUp folder force s = .ok () s' ∧ Stands folder s'.tree (some {}) := by
  have hfree : ¬(s.tree.exists? (join folder fileName) && !force) = true := by
    rw [h.exists?_eq]
    rcases hforce with rfl | rfl <;> simp
  obtain ⟨s', hsave, hstands⟩ := h.save {}
  have hget : (get : Run Session) s = .ok s s := rfl
  refine ⟨{ s' with printed := s'.printed ++ ("Created " ++ fileName) ++ "\n" }, ?_, hstands⟩
  rw [Config.setUp, bind_of_ok hget]
  dsimp only
  rw [if_neg hfree]
  exact (bind_of_ok hsave).trans rfl

/-- **One step.** -/
theorem step (h : Stands folder s.tree k) (act : Act) :
    Stands folder (leftBy (act.run folder) s).tree (keptBy k act) := by
  -- saving always writes, and loading leaves everything as it is; setting up does the one or the other
  cases act with
  | save p =>
    obtain ⟨s', hrun, hstands⟩ := h.save p
    rw [leftBy, hrun]
    exact hstands
  | setUp force =>
    rw [keptBy]
    split
    · next hkept =>
      obtain ⟨hsome, rfl⟩ : k.isSome ∧ force = false := by simpa using hkept
      rw [leftBy, Act.run, h.setUp_refused hsome]
      exact h
    · next hkept =>
      have hforce : k = none ∨ force = true := by
        cases k <;> cases force <;> simp_all
      obtain ⟨s', hrun, hstands⟩ := h.setUp hforce
      rw [leftBy, Act.run, hrun]
      exact hstands
  | load =>
    have hrun : Act.load.run folder s = .ok () s :=
      bind_of_ok (Run.look_eq_ok_iff.2 ⟨h.loadProject_eq, rfl⟩)
    rw [leftBy, hrun]
    exact h

/-- **One step after the other.** -/
theorem after (h : Stands folder s.tree k) (acts : List Act) :
    Stands folder (after folder acts s).tree (acts.foldl keptBy k) := by
  induction acts generalizing s k with
  | nil => exact h
  | cons act acts ih => exact ih (h.step act)

end Stands

/-- **What is loaded after whatever has been done** with the settings of a project that has none at first
and can have a file with some: nothing until settings are saved or set up, and the settings that have been
saved last from then on, or the defaults if they have been set up last. Saving succeeds, and so does
setting up, but for where there are settings and nothing is forced; then nothing changes. -/
theorem loadProject_after {folder : String} {s : Session}
    (hnone : s.tree.exists? (join folder fileName) = false)
    (hwrite : ∀ text, ∃ t, s.tree.writeText (join folder fileName) text = .ok t) (acts : List Act) :
    let s' := after folder acts s
    loadProject s'.tree folder = .ok (kept acts) ∧
      s'.tree.exists? (join folder fileName) = (kept acts).isSome ∧
      (∀ p, ∃ s'', (Act.save p).run folder s' = .ok () s'') ∧
      (∃ s'', setUp folder true s' = .ok () s'') ∧
      if s'.tree.exists? (join folder fileName) then setUp folder false s' = .error .settingsExist s'
      else ∃ s'', setUp folder false s' = .ok () s'' := by
  intro s'
  -- what stands there after all of these acts tells everything else
  have hstands : Stands folder s'.tree (kept acts) := Stands.after (k := none) ⟨hnone, hwrite⟩ acts
  refine ⟨hstands.loadProject_eq, hstands.exists?_eq, fun p => (hstands.save p).imp fun _ h => h.1,
    (hstands.setUp (.inr rfl)).imp fun _ h => h.1, ?_⟩
  rw [hstands.exists?_eq]
  split
  · next hsome => exact hstands.setUp_refused hsome
  · next hfree =>
    exact (hstands.setUp (.inl (Option.not_isSome_iff_eq_none.1 hfree))).imp fun _ h => h.1

/-- A project without any files. -/
def bareProject : Session where
  tree := Tree.empty.withFolders ["app"]

/-- Settings that take some writing: ends of lines, quotes and backslashes, and lists without items. -/
def oddSettings : ProjectSettings where
  schema := { file := some "", object := "a\"\n\\" }
  environment := { source := .files, ignore := ["", "\t\r", "\"\"\""] }
  scan := { exclude := [] }

/-- Such settings are loaded when the defaults have been saved before, and could not be saved again. -/
theorem loadProject_after_odd :
    loadProject (after "/app" [.load, .setUp false, .save oddSettings, .setUp false, .load] bareProject).tree
      "/app" = .ok (some oddSettings) := by
  have hway : bareProject.tree.way (join "/app" fileName) = .error .notFound := by decide +kernel
  have hnew : bareProject.tree.newWay (join "/app" fileName) = .ok ["app", ".envcheck.toml"] := by
    decide +kernel
  have hwrite (text : String) : bareProject.tree.writeText (join "/app" fileName) text =
      .ok (bareProject.tree.put ["app", ".envcheck.toml"] (.file (.text text))) := by
    rw [Tree.writeText, hway]
    dsimp only
    rw [hnew]
    rfl
  exact (loadProject_after (by decide +kernel) (fun text => ⟨_, hwrite text⟩)
    [.load, .setUp false, .save oddSettings, .setUp false, .load]).1

end EnvSchema.Config
