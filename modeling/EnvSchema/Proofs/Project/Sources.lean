import EnvSchema.Project.Sources
import EnvSchema.Proofs.Runs
import EnvSchema.Proofs.Script.References

/-!
# What the sources of a project read

The search stops at the first undeclared variable of a file, so what it finds is not all that a file
lacks. It does find something in every file that lacks anything:

* `ReadsIn` — a file is a script that reads a variable;
* `undeclaredIn_eq_none_iff`, `readsIn_of_undeclaredIn` — what is found in one file;
* `Searchable`, `exists_undeclaredInAll_iff` — files that can be searched;
* `mem_undeclaredInAll`, `undeclaredInAll_empty_iff` — what is found in several.
-/

namespace EnvSchema.Project

open Files (Tree)

variable {t : Tree} {declared missing : Names} {path name : String} {paths : List String}

/-- The dialect that a file is read with, if it is a script. -/
def dialectOf? (path : String) : Option Script.Dialect :=
  (Files.extension? path).bind Script.Dialect.ofExtension?

/-- **A file reads a variable**: it is a script, and a phrase somewhere in it reads the variable. -/
def ReadsIn (t : Tree) (path name : String) : Prop :=
  ∃ dialect source m, dialectOf? path = some dialect ∧ t.readText path = .ok source ∧
    Script.Module.parse dialect source = .ok m ∧ m.Reads name

/-! ### One file -/

/-- What is found in a file that can be searched. -/
theorem undeclaredIn_eq_ok_iff {found : Option String} :
    undeclaredIn t declared path = .ok found ↔
      dialectOf? path = none ∧ found = none ∨
      ∃ dialect source m, dialectOf? path = some dialect ∧ t.readText path = .ok source ∧
        Script.Module.parse dialect source = .ok m ∧ m.firstUndeclared declared = found := by
  unfold undeclaredIn
  have hdialect : (Files.extension? path).bind Script.Dialect.ofExtension? = dialectOf? path := rfl
  rw [hdialect]
  cases dialectOf? path with
  | none => simp [eq_comm]
  | some dialect =>
    -- the text is read, then parsed, and then searched, each of which has to succeed
    simp only [except_bind_eq_ok_iff, mapError_eq_ok_iff, Files.orFailAt, pure, Except.pure,
      Except.ok.injEq]
    simp

/-- **Nothing is found in a file** just if all that it reads is declared. -/
theorem undeclaredIn_eq_none_iff {found : Option String} (h : undeclaredIn t declared path = .ok found) :
    found = none ↔ ∀ name, ReadsIn t path name → name ∈ declared := by
  rcases undeclaredIn_eq_ok_iff.1 h with ⟨hd, rfl⟩ | ⟨dialect, source, m, hd, hs, hm, rfl⟩
  · simp [ReadsIn, hd]
  · simp [ReadsIn, hd, hs, hm, Script.Module.firstUndeclared_eq_none_iff_reads]

/-- What is found in a file is read there, and it is not declared. -/
theorem readsIn_of_undeclaredIn (h : undeclaredIn t declared path = .ok (some name)) :
    ReadsIn t path name ∧ name ∉ declared := by
  rcases undeclaredIn_eq_ok_iff.1 h with ⟨-, hnone⟩ | ⟨dialect, source, m, hd, hs, hm, hfound⟩
  · exact nomatch hnone
  · obtain ⟨hreads, hnot⟩ := Script.Module.reads_of_firstUndeclared hfound
    exact ⟨⟨dialect, source, m, hd, hs, hm, hreads⟩, hnot⟩

/-- **A file can be searched**: if it is a script at all, it can be read as one. -/
def Searchable (t : Tree) (path : String) : Prop :=
  ∀ dialect, dialectOf? path = some dialect →
    ∃ source m, t.readText path = .ok source ∧ Script.Module.parse dialect source = .ok m

/-- Something or nothing is found in a file just if it can be searched. -/
theorem exists_undeclaredIn_iff : (∃ found, undeclaredIn t declared path = .ok found) ↔
    Searchable t path := by
  constructor
  · rintro ⟨found, hfound⟩ dialect hdialect
    rcases undeclaredIn_eq_ok_iff.1 hfound with ⟨hnone, -⟩ | ⟨dialect', source, m, hd, hs, hm, -⟩
    · exact nomatch hnone.symm.trans hdialect
    · cases hd.symm.trans hdialect
      exact ⟨source, m, hs, hm⟩
  · intro h
    cases hdialect : dialectOf? path with
    | none => exact ⟨none, undeclaredIn_eq_ok_iff.2 (.inl ⟨hdialect, rfl⟩)⟩
    | some dialect =>
      obtain ⟨source, m, hs, hm⟩ := h dialect hdialect
      exact ⟨_, undeclaredIn_eq_ok_iff.2 (.inr ⟨dialect, source, m, hdialect, hs, hm, rfl⟩)⟩

/-- What a file reads, if it is a script. -/
theorem readsIn_iff_of_parse {dialect : Script.Dialect} {source : String} {m : Script.Module}
    (hdialect : dialectOf? path = some dialect) (hread : t.readText path = .ok source)
    (hparse : Script.Module.parse dialect source = .ok m) :
    ReadsIn t path name ↔ name ∈ m.references := by
  simp [ReadsIn, hdialect, hread, hparse, Script.Module.mem_references_iff]

/-! ### Several files -/

/-- One file with a certain ending is all that is searched. -/
theorem sourceFiles_of_one {folder extension : String} {exclude : List String}
    (h : filesEnding t folder exclude extension = .ok [path]) :
    sourceFiles t folder [extension] exclude = .ok [path] := by
  have hsorted : sortedPaths [path] = [path] := by
    rw [sortedPaths, List.mergeSort_singleton]
    simp [sortedPaths.dropRepeated]
  refine except_bind_eq_ok_iff.2 ⟨[[path]], ?_, by simp [hsorted, pure, Except.pure]⟩
  rw [List.mapM_cons]
  exact except_bind_eq_ok_iff.2 ⟨[path], h, rfl⟩

/-- **What is found in several files** is what is found in one of them. -/
theorem mem_undeclaredInAll (h : undeclaredInAll t declared paths = .ok missing) :
    name ∈ missing ↔ ∃ path ∈ paths, undeclaredIn t declared path = .ok (some name) := by
  obtain ⟨found, hfound, h⟩ := except_bind_eq_ok_iff.1 h
  cases h
  obtain ⟨hl, hm⟩ := mem_mapM hfound
  rw [Names.mem_ofList]
  simp only [List.mem_filterMap, id_eq, exists_eq_right]
  constructor
  · exact hm (some name)
  · rintro ⟨path, hpath, hname⟩
    obtain ⟨o, ho, hsame⟩ := hl path hpath
    cases hname.symm.trans hsame
    exact ho

/-- Every one of several files that have been searched can be searched. -/
theorem undeclaredIn_of_undeclaredInAll (h : undeclaredInAll t declared paths = .ok missing)
    (hpath : path ∈ paths) : ∃ found, undeclaredIn t declared path = .ok found := by
  obtain ⟨found, hfound, -⟩ := except_bind_eq_ok_iff.1 h
  obtain ⟨o, -, ho⟩ := (mem_mapM hfound).1 path hpath
  exact ⟨o, ho⟩

/-- **Several files are searched** just if each of them can be. -/
theorem exists_undeclaredInAll_iff : (∃ missing, undeclaredInAll t declared paths = .ok missing) ↔
    ∀ path ∈ paths, Searchable t path := by
  constructor
  · rintro ⟨missing, h⟩ path hpath
    exact exists_undeclaredIn_iff.1 (undeclaredIn_of_undeclaredInAll h hpath)
  · intro h
    obtain ⟨found, hfound⟩ := exists_mapM (f := undeclaredIn t declared) fun path hpath =>
      exists_undeclaredIn_iff.2 (h path hpath)
    exact ⟨_, except_bind_eq_ok_iff.2 ⟨found, hfound, rfl⟩⟩

/-- What is found in several files is read in one of them, and it is not declared. -/
theorem readsIn_of_mem_undeclaredInAll (h : undeclaredInAll t declared paths = .ok missing)
    (hname : name ∈ missing) : (∃ path ∈ paths, ReadsIn t path name) ∧ name ∉ declared := by
  obtain ⟨path, hpath, hfound⟩ := (mem_undeclaredInAll h).1 hname
  obtain ⟨hreads, hnot⟩ := readsIn_of_undeclaredIn hfound
  exact ⟨⟨path, hpath, hreads⟩, hnot⟩

/-- **Nothing is found in several files** just if all that they read is declared. -/
theorem undeclaredInAll_empty_iff (h : undeclaredInAll t declared paths = .ok missing) :
    (∀ name, name ∉ missing) ↔ ∀ path ∈ paths, ∀ name, ReadsIn t path name → name ∈ declared := by
  constructor
  · intro hempty path hpath
    obtain ⟨found, hfound⟩ := undeclaredIn_of_undeclaredInAll h hpath
    refine (undeclaredIn_eq_none_iff hfound).1 ?_
    -- what was found in this file would have been found in all
    cases found with
    | none => rfl
    | some name => exact absurd ((mem_undeclaredInAll h).2 ⟨path, hpath, hfound⟩) (hempty name)
  · intro hall name hname
    obtain ⟨⟨path, hpath, hreads⟩, hnot⟩ := readsIn_of_mem_undeclaredInAll h hname
    exact hnot (hall path hpath name hreads)

end EnvSchema.Project
