import EnvSchema.Proofs.Glob.Search
import EnvSchema.Proofs.Project.Sources

/-!
# The files that are searched

The files are searched for once for every ending, so a file with two of the endings is found twice.
In the order of their paths such a file counts once.

* `comparePaths_eq_iff`, `pairwise_sortedPaths`, `mem_of_mem_sortedPaths`,
  `exists_mem_sortedPaths` — paths in their order;
* `LiesIn`, `IsWanted` — the files in a folder, and those of them that are to be searched;
* `exists_filesEnding` — the files with one ending;
* `sourceFiles_listed` — the files with one of several endings.
-/

namespace EnvSchema.Project

open Files (Tree components isAbsolute isName rooted spelled)

variable {t : Tree} {folder extension path : String} {extensions exclude names paths files : List String}

/-! ### The order of paths -/

instance : Std.TransCmp compareComponents :=
  inferInstanceAs (Std.TransCmp (compareLex (compareOn componentRank) (compare : String → String → Ordering)))

instance : Std.LawfulEqCmp compareComponents where
  eq_of_compare h := by
    rw [compareComponents, Ordering.then_eq_eq] at h
    exact Std.LawfulEqOrd.eq_of_compare h.2

instance : Std.TransCmp comparePaths where
  eq_swap := (inferInstance : Std.OrientedCmp (List.compareLex compareComponents)).eq_swap
  isLE_trans := (inferInstance : Std.TransCmp (List.compareLex compareComponents)).isLE_trans

/-- Paths are the same in the order just if they have the same components. -/
theorem comparePaths_eq_iff {a b : String} : comparePaths a b = .eq ↔ components a = components b :=
  @Std.LawfulEqCmp.compare_eq_iff_eq _ (List.compareLex compareComponents) _ _ _

/-- Nothing is added where repeated paths are left out. -/
private theorem dropRepeated_sublist (paths : List String) :
    (sortedPaths.dropRepeated paths).Sublist paths := by
  fun_induction sortedPaths.dropRepeated paths with
  | case1 a b l _ ih => exact ih.trans ((List.sublist_cons_self b l).cons_cons a)
  | case2 a b l _ ih => exact ih.cons_cons a
  | case3 l => exact .refl l

/-- Only what repeats another path is left out. -/
private theorem exists_mem_dropRepeated (paths : List String) :
    ∀ path ∈ paths, ∃ kept ∈ sortedPaths.dropRepeated paths, components kept = components path := by
  fun_induction sortedPaths.dropRepeated paths with
  | case1 a b l hsame ih =>
    refine List.forall_mem_cons.2 ⟨ih a List.mem_cons_self, List.forall_mem_cons.2 ⟨?_, fun x hx => ?_⟩⟩
    · exact hsame ▸ ih a List.mem_cons_self
    · exact ih x (List.mem_cons_of_mem _ hx)
  | case2 a b l _ ih =>
    refine List.forall_mem_cons.2 ⟨⟨a, List.mem_cons_self, rfl⟩, fun x hx => ?_⟩
    obtain ⟨kept, hkept, hsame⟩ := ih x hx
    exact ⟨kept, List.mem_cons_of_mem _ hkept, hsame⟩
  | case3 => exact fun x hx => ⟨x, hx, rfl⟩

/-- What is left of paths in their order is in strict order. -/
private theorem pairwise_dropRepeated (h : paths.Pairwise fun a b => (comparePaths a b).isLE = true) :
    (sortedPaths.dropRepeated paths).Pairwise fun a b => comparePaths a b = .lt := by
  fun_induction sortedPaths.dropRepeated paths with
  | case1 a b l _ ih => exact ih (h.sublist ((List.sublist_cons_self b l).cons_cons a))
  | case2 a b l hdiffer ih =>
    obtain ⟨ha, hl⟩ := List.pairwise_cons.1 h
    have hab : comparePaths a b = .lt := by
      have hle := ha b List.mem_cons_self
      cases hcompare : comparePaths a b with
      | lt => rfl
      | eq => exact absurd (comparePaths_eq_iff.1 hcompare) hdiffer
      | gt => simp [hcompare] at hle
    refine List.pairwise_cons.2 ⟨fun x hx => ?_, ih hl⟩
    -- what comes behind the second path comes behind the first one
    rcases List.mem_cons.1 ((dropRepeated_sublist _).subset hx) with rfl | hx
    · exact hab
    · exact Std.TransCmp.lt_of_lt_of_isLE hab ((List.pairwise_cons.1 hl).1 x hx)
  | case3 l hl =>
    cases l with
    | nil => exact .nil
    | cons a l =>
      cases l with
      | nil => exact List.pairwise_singleton ..
      | cons b l => exact absurd rfl (hl a b l)

private theorem mergeSort_pairwise : (paths.mergeSort fun a b => (comparePaths a b).isLE).Pairwise
    fun a b => (comparePaths a b).isLE = true := by
  refine List.pairwise_mergeSort (fun a b c => Std.TransCmp.isLE_trans) (fun a b => ?_) paths
  have hswap : comparePaths b a = (comparePaths a b).swap := Std.OrientedCmp.eq_swap
  rw [hswap]
  cases comparePaths a b <;> rfl

/-- **Paths in their order** are in strict order. -/
theorem pairwise_sortedPaths (paths : List String) :
    (sortedPaths paths).Pairwise fun a b => comparePaths a b = .lt :=
  pairwise_dropRepeated mergeSort_pairwise

/-- Nothing is put into the order that was not there. -/
theorem mem_of_mem_sortedPaths (h : path ∈ sortedPaths paths) : path ∈ paths :=
  List.mem_mergeSort.1 ((dropRepeated_sublist _).subset h)

/-- Nothing is left out but what has the same components as something that is kept. -/
theorem exists_mem_sortedPaths (h : path ∈ paths) :
    ∃ kept ∈ sortedPaths paths, components kept = components path :=
  exists_mem_dropRepeated _ path (List.mem_mergeSort.2 h)

/-! ### Files in a folder -/

/-- **A file lies in a folder under some names**: it is at the end of a path that is written with the
names of the folder and these. -/
structure LiesIn (t : Tree) (folder : String) (names : List String) : Prop where
  proper : ∀ name ∈ names, isName name = true
  file : ∃ path, isAbsolute path = true ∧ spelled path = spelled folder ++ names ∧ t.isFile path = true

/-- **A file is to be searched**, by its names behind the folder: the last one ends with a dot and one
of the extensions, and none of them is passed over. -/
structure IsWanted (extensions exclude names : List String) : Prop where
  ending : ∃ extension ∈ extensions, ∃ last, names.getLast? = some last ∧
    '.' :: extension.toList <:+ last.toList
  included : ∀ name ∈ names, name ∉ exclude

/-- A name has an ending only if there is a name. -/
theorem IsWanted.ne_nil (h : IsWanted extensions exclude names) : names ≠ [] := by
  obtain ⟨extension, -, last, hlast, -⟩ := h.ending
  rintro rfl
  exact nomatch hlast

section

variable (hne : names ≠ [])
include hne

theorem isAbsolute_rooted_append : isAbsolute (rooted (spelled folder ++ names)) = true :=
  (Files.Spells.entry (by simp [hne])).isAbsolute

variable (hnames : ∀ name ∈ names, isName name = true)
include hnames

omit hne in
/-- The path with the names of a folder and further ones is written with them. -/
theorem spelled_rooted_append : spelled (rooted (spelled folder ++ names)) = spelled folder ++ names :=
  Files.spelled_rooted (Files.plain_append hnames)

/-- A file lies in a folder just if the shortest path with its names leads to it. -/
theorem liesIn_iff :
    LiesIn t folder names ↔ t.isFile (rooted (spelled folder ++ names)) = true := by
  constructor
  · rintro ⟨-, path, habs, hspelled, hfile⟩
    exact hspelled ▸ Tree.isFile_rooted habs hfile
  · intro hfile
    exact ⟨hnames, _, isAbsolute_rooted_append hne, spelled_rooted_append hnames, hfile⟩

variable (hfolder : isAbsolute folder = true)
include hfolder

theorem components_rooted_append :
    components (rooted (spelled folder ++ names)) = components folder ++ names :=
  Files.components_of_spelled hfolder (isAbsolute_rooted_append hne)
    (spelled_rooted_append hnames) fun name hname => Files.isStep_of_isName (hnames name hname)

/-- A file is passed over by its names behind the folder. -/
theorem isExcluded_rooted_append : isExcluded folder exclude (rooted (spelled folder ++ names)) = false ↔
    ∀ name ∈ names, name ∉ exclude := by
  have hrelative := Files.relative?_of_spelled hfolder (isAbsolute_rooted_append hne)
    (spelled_rooted_append hnames) fun name hname => Files.isStep_of_isName (hnames name hname)
  rw [isExcluded, hrelative, Option.getD_some]
  simp

end

section

/-- Whether an ending stands for itself in a pattern and is within one piece of a path. -/
theorem plain_of_all
    (h : (extension.toList.all fun c => !decide (Glob.IsSpecial c) && c != '/') = true) :
    ∀ c ∈ extension.toList, ¬ Glob.IsSpecial c ∧ c ≠ '/' := by
  simpa using h

variable (ht : t.Named) (hfolder : isAbsolute folder = true)
include ht hfolder

/-- **The files with one ending.** -/
theorem exists_filesEnding (exclude : List String)
    (hext : ∀ c ∈ extension.toList, ¬ Glob.IsSpecial c ∧ c ≠ '/') :
    ∃ found, filesEnding t folder exclude extension = .ok found ∧
      ∀ path, path ∈ found ↔ ∃ names, LiesIn t folder names ∧ IsWanted [extension] exclude names ∧
        path = rooted (spelled folder ++ names) := by
  have hslash : '/' ∉ extension.toList := fun h => (hext '/' h).2 rfl
  obtain ⟨all, hall, hmem⟩ :=
    Glob.exists_search_ending hfolder ht (fun c hc => (hext c hc).1) hslash
  -- the search gives what has the ending, and of it only files that are not excluded are kept
  refine ⟨all.filter fun p => t.isFile p && !isExcluded folder exclude p, ?_, fun path => ?_⟩
  · rw [filesEnding, pattern, hall]
    rfl
  rw [List.mem_filter, Bool.and_eq_true, Bool.not_eq_true']
  constructor
  · rintro ⟨hpath, hfile, hexcluded⟩
    obtain ⟨names, last, hlast, hnames, hending, rfl⟩ := (hmem path hfile).1 hpath
    have hne : names ≠ [] := by
      rintro rfl
      exact nomatch hlast
    refine ⟨names, (liesIn_iff hne hnames).2 hfile, ⟨?_, ?_⟩, rfl⟩
    · exact ⟨extension, List.mem_cons_self, last, hlast, hending⟩
    · exact (isExcluded_rooted_append hne hnames hfolder).1 hexcluded
  · rintro ⟨names, hlies, hwanted, rfl⟩
    have hne := hwanted.ne_nil
    have hfile := (liesIn_iff hne hlies.proper).1 hlies
    obtain ⟨_, hext, last, hlast, hending⟩ := hwanted.ending
    cases List.mem_singleton.1 hext
    refine ⟨(hmem _ hfile).2 ⟨names, last, hlast, hlies.proper, hending, rfl⟩, hfile, ?_⟩
    exact (isExcluded_rooted_append hne hlies.proper hfolder).2 hwanted.included

variable (exclude) (hext : ∀ extension ∈ extensions, ∀ c ∈ extension.toList, ¬ Glob.IsSpecial c ∧ c ≠ '/')
include hext

/-- **The files to be searched** are listed by the shortest paths that they are found by, in the order
of paths. -/
theorem exists_sourceFiles : ∃ files, sourceFiles t folder extensions exclude = .ok files ∧
    (files.Pairwise fun a b => comparePaths a b = .lt) ∧
    (∀ path ∈ files, ∃ names, LiesIn t folder names ∧ IsWanted extensions exclude names ∧
      path = rooted (spelled folder ++ names)) ∧
    ∀ names, LiesIn t folder names → IsWanted extensions exclude names →
      ∃ path ∈ files, components path = components folder ++ names := by
  -- there is one list of files for each extension, and the answer is made of all of them
  have hfound : ∀ extension ∈ extensions, ∃ found, filesEnding t folder exclude extension = .ok found :=
    fun extension hmem => (exists_filesEnding ht hfolder exclude (hext extension hmem)).imp fun _ h => h.1
  obtain ⟨lists, hlists⟩ := exists_mapM hfound
  obtain ⟨hall, hfrom⟩ := mem_mapM hlists
  refine ⟨sortedPaths lists.flatten, except_bind_eq_ok_iff.2 ⟨lists, hlists, rfl⟩,
    pairwise_sortedPaths _, fun path hpath => ?_, fun names hlies hwanted => ?_⟩
  · -- a path of the answer comes from the list of some extension
    obtain ⟨found, hfound, hpath⟩ := List.mem_flatten.1 (mem_of_mem_sortedPaths hpath)
    obtain ⟨extension, hmem, hfiles⟩ := hfrom found hfound
    obtain ⟨_, hfiles', hpaths⟩ := exists_filesEnding ht hfolder exclude (hext extension hmem)
    cases hfiles.symm.trans hfiles'
    obtain ⟨names, hlies, ⟨⟨_, hone, hending⟩, hincluded⟩, rfl⟩ := (hpaths path).1 hpath
    cases List.mem_singleton.1 hone
    exact ⟨names, hlies, ⟨⟨extension, hmem, hending⟩, hincluded⟩, rfl⟩
  · -- a file that is wanted is in the list of its extension; putting the lists in order keeps one path of
    -- those that are spelled differently and lead to the same file
    obtain ⟨⟨extension, hmem, hending⟩, hincluded⟩ := hwanted
    obtain ⟨found, hfound, hfiles⟩ := hall extension hmem
    obtain ⟨_, hfiles', hpaths⟩ := exists_filesEnding ht hfolder exclude (hext extension hmem)
    cases hfiles.symm.trans hfiles'
    have hwanted : IsWanted [extension] exclude names :=
      ⟨⟨extension, List.mem_cons_self, hending⟩, hincluded⟩
    have hpath := (hpaths _).2 ⟨names, hlies, hwanted, rfl⟩
    obtain ⟨kept, hkept, hsame⟩ := exists_mem_sortedPaths (List.mem_flatten.2 ⟨found, hfound, hpath⟩)
    exact ⟨kept, hkept, hsame.trans (components_rooted_append hwanted.ne_nil hlies.proper hfolder)⟩

/-- **The files that are searched** are exactly those in a folder, at any depth, whose last name ends
with a dot and one of the extensions and to which no name behind the folder leads that is passed over.
They are in the strict order of their paths, so that none is listed twice. -/
theorem sourceFiles_listed : ∃ files, sourceFiles t folder extensions exclude = .ok files ∧
    (files.Pairwise fun a b => comparePaths a b = .lt) ∧
    (∀ path ∈ files, t.isFile path = true ∧ ∃ names, components path = components folder ++ names) ∧
    ∀ names, (∃ path ∈ files, components path = components folder ++ names) ↔
      LiesIn t folder names ∧ IsWanted extensions exclude names := by
  obtain ⟨files, hfiles, hpairwise, hfrom, hall⟩ := exists_sourceFiles exclude ht hfolder hext
  refine ⟨files, hfiles, hpairwise, fun path hpath => ?_, fun names => ⟨?_, ?_⟩⟩
  · obtain ⟨names, hlies, hwanted, rfl⟩ := hfrom path hpath
    have hne := hwanted.ne_nil
    exact ⟨(liesIn_iff hne hlies.proper).1 hlies, names, components_rooted_append hne hlies.proper hfolder⟩
  · rintro ⟨path, hpath, hcomponents⟩
    obtain ⟨names', hlies, hwanted, rfl⟩ := hfrom path hpath
    -- the components of a path tell the names below the folder
    rw [components_rooted_append hwanted.ne_nil hlies.proper hfolder] at hcomponents
    cases List.append_cancel_left hcomponents
    exact ⟨hlies, hwanted⟩
  · rintro ⟨hlies, hwanted⟩
    exact hall names hlies hwanted

end

/-- A folder whose name holds a sign of patterns, with a file that is searched and one that is passed
over. -/
def starredFolder : Tree :=
  (Tree.empty.withFile ["a*", "src", "x.d.ts"] (.text "")).withFile ["a*", "src", "lib", "b.ts"] (.text "")

/-- The file with two of the endings is listed, and the other one is not. -/
theorem sourceFiles_listed_starred :
    ∃ files, sourceFiles starredFolder "/a*/src" ["ts", "d.ts"] ["lib"] = .ok files ∧
      (∃ path ∈ files, components path = ["/", "a*", "src", "x.d.ts"]) ∧
      ¬ ∃ path ∈ files, components path = ["/", "a*", "src", "lib", "b.ts"] := by
  have hplain : ∀ extension ∈ ["ts", "d.ts"], ∀ c ∈ extension.toList, ¬ Glob.IsSpecial c ∧ c ≠ '/' := by
    have hall : ∀ extension ∈ ["ts", "d.ts"],
        (extension.toList.all fun c => !decide (Glob.IsSpecial c) && c != '/') = true := by decide +kernel
    exact fun extension h => plain_of_all (hall extension h)
  obtain ⟨files, hfiles, -, -, hlisted⟩ := sourceFiles_listed ["lib"]
    (by decide +kernel : starredFolder.Named) (by decide +kernel : isAbsolute "/a*/src" = true) hplain
  have hfolder : components "/a*/src" = ["/", "a*", "src"] := by decide +kernel
  rw [hfolder] at hlisted
  refine ⟨files, hfiles, (hlisted ["x.d.ts"]).2 ⟨⟨by decide +kernel, ?_⟩, ⟨?_, by simp⟩⟩, fun h => ?_⟩
  · exact ⟨"/a*/src/x.d.ts", by decide +kernel, by decide +kernel, by decide +kernel⟩
  · exact ⟨"ts", by simp, "x.d.ts", rfl, by decide +kernel⟩
  · exact ((hlisted ["lib", "b.ts"]).1 h).2.included "lib" (by simp) (by simp)

end EnvSchema.Project
