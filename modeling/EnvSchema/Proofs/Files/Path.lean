import EnvSchema.Files.Path
import EnvSchema.Proofs.Text.Pieces
import Mathlib.Data.List.Induction

/-!
# Paths from the root

A path from the root is its pieces with a slash before each of them. Of these, the empty ones say
nothing: they stand where slashes follow one another.

* `pieces_append_slash`, `pieces_of_not_mem`, `not_mem_of_mem_pieces` — the pieces of a path, which
  hold no slashes;
* `rooted`, `pieces_rooted` — the path from the root with given pieces;
* `spelled`, `rooted_spelled_sublist` — the pieces of a path that are not empty, and the shortest path
  that has them;
* `Spells`, `Spells.join` — a path with given names, and what it is joined to;
* `components_eq_of_spelled`, `relative?_of_spelled` — its components.
-/

namespace EnvSchema.Files

variable {path folder name : String} {names : List String}

/-! ### Pieces -/

/-- The pieces of two paths with a slash between them. -/
theorem pieces_append_slash (first second : String) :
    pieces (first ++ "/" ++ second) = pieces first ++ pieces second := by
  have hchars : (first ++ "/" ++ second).toList = first.toList ++ '/' :: second.toList := by simp
  rw [pieces, hchars, List.splitOn_append_cons_self, List.map_append]
  rfl

/-- A text without slashes is one piece. -/
theorem pieces_of_not_mem (h : '/' ∉ name.toList) : pieces name = [name] := by
  rw [pieces, List.splitOn_eq_singleton h, List.map_singleton, String.ofList_toList]

/-- No piece of a path holds a slash. -/
theorem not_mem_of_mem_pieces (h : name ∈ pieces path) : '/' ∉ name.toList := by
  obtain ⟨piece, hpiece, rfl⟩ := List.mem_map.1 h
  rw [String.toList_ofList]
  exact Text.not_mem_of_mem_splitOn hpiece

/-- A path starts at the root just if its first character is a slash. -/
theorem isAbsolute_iff : isAbsolute path = true ↔ ∃ cs, path.toList = '/' :: cs := by
  rw [isAbsolute, String.startsWith_string_iff]
  constructor
  · rintro ⟨cs, hcs⟩
    exact ⟨cs, hcs.symm⟩
  · rintro ⟨cs, hcs⟩
    exact ⟨cs, hcs.symm⟩

theorem isAbsolute_eq_false (h : '/' ∉ name.toList) : isAbsolute name = false := by
  rw [Bool.eq_false_iff]
  intro habs
  obtain ⟨cs, hcs⟩ := isAbsolute_iff.1 habs
  exact h (hcs ▸ List.mem_cons_self)

/-- The first piece of a path from the root is empty. -/
theorem pieces_of_isAbsolute (h : isAbsolute path = true) : pieces path = "" :: (pieces path).tail := by
  obtain ⟨cs, hcs⟩ := isAbsolute_iff.1 h
  rw [pieces, hcs, List.splitOn_cons_eq_if_modifyHead]
  simp

/-- Behind its first slash, a path from the root has the pieces that are left. -/
theorem pieces_drop (h : isAbsolute path = true) :
    pieces (String.ofList (path.toList.drop 1)) = (pieces path).tail := by
  obtain ⟨cs, hcs⟩ := isAbsolute_iff.1 h
  rw [pieces, pieces, String.toList_ofList, hcs, List.splitOn_cons_eq_if_modifyHead]
  simp

/-! ### The path with given pieces -/

/-- **The path from the root with given pieces.** -/
def rooted (names : List String) : String :=
  String.ofList (names.flatMap fun name => '/' :: name.toList)

theorem toList_rooted : (rooted names).toList = names.flatMap fun name => '/' :: name.toList := by
  rw [rooted, String.toList_ofList]

theorem rooted_append_singleton : rooted (names ++ [name]) = rooted names ++ "/" ++ name := by
  refine String.toList_inj.1 ?_
  simp [toList_rooted]

theorem rooted_append_empty : rooted (names ++ [""]) = rooted names ++ "/" := by
  rw [rooted_append_singleton, String.append_empty]

/-- The pieces of a path are those that it is made of. -/
theorem pieces_rooted (h : ∀ name ∈ names, '/' ∉ name.toList) : pieces (rooted names) = "" :: names := by
  induction names using List.reverseRecOn with
  | nil => rfl
  | append_singleton names name ih =>
    obtain ⟨hnames, hname⟩ := List.forall_mem_append.1 h
    rw [rooted_append_singleton, pieces_append_slash, ih hnames,
      pieces_of_not_mem (hname name List.mem_cons_self), List.cons_append]

/-- A path from the root is made of its pieces. -/
theorem rooted_tail_pieces (h : isAbsolute path = true) : rooted (pieces path).tail = path := by
  obtain ⟨cs, hcs⟩ := isAbsolute_iff.1 h
  have htail : (pieces path).tail = (cs.splitOn '/').map String.ofList := by
    rw [← pieces_drop h, hcs, pieces, String.toList_ofList]
    rfl
  refine String.toList_inj.1 ?_
  rw [toList_rooted, htail, List.flatMap_map, hcs, ← Text.flatMap_splitOn]
  simp

/-! ### Names -/

/-- **The pieces of a path that say something**: those that are not empty. -/
def spelled (path : String) : List String := (pieces path).filter (· ≠ "")

theorem spelled_of_isAbsolute (h : isAbsolute path = true) :
    spelled path = (pieces path).tail.filter (· ≠ "") := by
  rw [spelled, pieces_of_isAbsolute h, List.filter_cons_of_neg (by simp)]
  rfl

/-- What may stand between slashes that do not follow one another. -/
def Plain (name : String) : Prop := name ≠ "" ∧ '/' ∉ name.toList

theorem Plain.concat (hname : Plain name) (hnames : ∀ name ∈ names, Plain name) :
    ∀ other ∈ names ++ [name], Plain other :=
  List.forall_mem_append.2 ⟨hnames, List.forall_mem_singleton.2 hname⟩

theorem plain_of_mem_spelled (h : name ∈ spelled path) : Plain name := by
  obtain ⟨hmem, hne⟩ := List.mem_filter.1 h
  exact ⟨by simpa using hne, not_mem_of_mem_pieces hmem⟩

theorem spelled_rooted (h : ∀ name ∈ names, Plain name) : spelled (rooted names) = names := by
  rw [spelled, pieces_rooted fun name hname => (h name hname).2, List.filter_cons_of_neg (by simp)]
  exact List.filter_eq_self.2 fun name hname => by simpa using (h name hname).1

/-- **The path that is made of what another one says** has no further characters, and those that it
has stand in the same order. -/
theorem rooted_spelled_sublist (h : isAbsolute path = true) :
    (rooted (spelled path)).toList.Sublist path.toList := by
  have hsub : (spelled path).Sublist (pieces path).tail :=
    spelled_of_isAbsolute h ▸ List.filter_sublist
  have hpath : path.toList = (rooted (pieces path).tail).toList := by rw [rooted_tail_pieces h]
  rw [hpath, toList_rooted, toList_rooted]
  exact hsub.flatMap _

/-- **A path is written with some names**: they stand behind a slash each, and one more slash may
follow. The root itself is nothing but that slash. -/
inductive Spells (names : List String) : String → Prop
  | folder : Spells names (rooted names ++ "/")
  | entry : names ≠ [] → Spells names (rooted names)

/-- A path that is written with names starts at the root. -/
theorem Spells.isAbsolute (h : Spells names path) : isAbsolute path = true := by
  have hrooted {ns : List String} (hns : ns ≠ []) : Files.isAbsolute (rooted ns) = true := by
    obtain ⟨n, ns, rfl⟩ := List.exists_cons_of_ne_nil hns
    exact isAbsolute_iff.2 ⟨_, by rw [toList_rooted, List.flatMap_cons, List.cons_append]⟩
  cases h with
  | folder => exact rooted_append_empty ▸ hrooted (by simp)
  | entry hne => exact hrooted hne

/-- A path ends with a slash just if that is its last character. -/
theorem endsWith_slash_iff : path.endsWith "/" = true ↔ path.toList.getLast? = some '/' := by
  rw [← String.endsWith_toSlice, String.Slice.endsWith_string_iff, String.copy_toSlice]
  constructor
  · rintro ⟨cs, hcs⟩
    rw [← hcs, List.getLast?_append]
    rfl
  · intro h
    obtain ⟨cs, hcs⟩ := List.getLast?_eq_some_iff.1 h
    exact ⟨cs, hcs.symm⟩

/-- A path of names does not end with a slash. -/
theorem endsWith_slash_rooted (hne : names ≠ []) (hnames : ∀ name ∈ names, Plain name) :
    (rooted names).endsWith "/" = false := by
  rw [Bool.eq_false_iff, Ne, endsWith_slash_iff]
  intro hlast
  obtain ⟨before, last, rfl⟩ := (List.eq_nil_or_concat' names).resolve_left hne
  obtain ⟨hempty, hslash⟩ := hnames last (List.mem_append_right _ List.mem_cons_self)
  have hchars : last.toList ≠ [] := fun h => hempty (String.toList_eq_nil_iff.1 h)
  rw [rooted_append_singleton, String.toList_append, List.getLast?_append_of_ne_nil _ hchars] at hlast
  exact hslash (List.mem_of_getLast? hlast)

/-- A name is joined to a path by a slash, unless the path ends with one. -/
theorem Spells.join (h : Spells names path) (hnames : ∀ name ∈ names, Plain name)
    (hname : '/' ∉ name.toList) : join path name = rooted (names ++ [name]) := by
  have hempty : path.isEmpty = false := by
    obtain ⟨cs, hcs⟩ := isAbsolute_iff.1 h.isAbsolute
    rw [Bool.eq_false_iff, Ne, String.isEmpty_iff]
    rintro rfl
    exact nomatch hcs
  rw [Files.join, isAbsolute_eq_false hname, hempty, rooted_append_singleton]
  cases h with
  | folder =>
    have hslash : (rooted names ++ "/").endsWith "/" = true := by
      rw [endsWith_slash_iff, String.toList_append, List.getLast?_append]
      rfl
    simp [hslash]
  | entry hne => simp [endsWith_slash_rooted hne hnames]

/-- A path that is joined to a name is written with one more name. -/
theorem Spells.join_name (h : Spells names path) (hnames : ∀ name ∈ names, Plain name)
    (hname : Plain name) : Spells (names ++ [name]) (Files.join path name) := by
  rw [h.join hnames hname.2]
  exact .entry (by simp)

/-- A path that is joined to nothing is written with the same names. -/
theorem Spells.join_empty (h : Spells names path) (hnames : ∀ name ∈ names, Plain name) :
    Spells names (Files.join path "") := by
  rw [h.join hnames (by simp), rooted_append_empty]
  exact .folder

/-- **Pieces are joined to a path** one by one: those that are empty add no name. -/
theorem Spells.foldl_join {pieces : List String} (h : Spells names path)
    (hnames : ∀ name ∈ names, Plain name) (hpieces : ∀ piece ∈ pieces, '/' ∉ piece.toList) :
    Spells (names ++ pieces.filter (· ≠ "")) (pieces.foldl Files.join path) := by
  induction pieces generalizing names path with
  | nil => simpa using h
  | cons piece pieces ih =>
    obtain ⟨hpiece, hrest⟩ := List.forall_mem_cons.1 hpieces
    rw [List.foldl_cons]
    -- an empty piece leaves at most a slash behind, and so the names as they are
    by_cases hempty : piece = ""
    · subst hempty
      rw [List.filter_cons_of_neg (by simp)]
      exact ih (h.join_empty hnames) hnames hrest
    · have hplain : Plain piece := ⟨hempty, hpiece⟩
      rw [List.filter_cons_of_pos (by simpa using hempty), List.append_cons]
      exact ih (h.join_name hnames hplain) (hplain.concat hnames) hrest

/-- What a path with some names begins with, if more names follow. -/
theorem Spells.sublist (h : Spells names path) {more : List String} (hmore : more ≠ []) :
    path.toList.Sublist (rooted (names ++ more)).toList := by
  obtain ⟨name, more, rfl⟩ := List.exists_cons_of_ne_nil hmore
  cases h with
  | folder => simp [toList_rooted]
  | entry => simp [toList_rooted]

/-! ### Components -/

/-- The components of a path from the root are those of its names that stand for a step. -/
theorem components_of_isAbsolute (h : isAbsolute path = true) :
    components path = "/" :: (spelled path).filter isStep := by
  rw [components, if_pos h, spelled, List.filter_filter]
  refine congrArg _ (List.filter_congr fun piece _ => ?_)
  by_cases hpiece : piece = ""
  · simp [hpiece, isStep]
  · simp [hpiece]

section

variable (hfolder : isAbsolute folder = true) (hpath : isAbsolute path = true)
  (hspelled : spelled path = spelled folder ++ names) (hnames : ∀ name ∈ names, isStep name = true)
include hfolder hpath hspelled hnames

/-- A path in a folder has the components of the folder and the names behind them. -/
theorem components_of_spelled : components path = components folder ++ names := by
  rw [components_of_isAbsolute hfolder, components_of_isAbsolute hpath, hspelled,
    List.filter_append, List.filter_eq_self.2 hnames, List.cons_append]

/-- What a path has behind a folder. -/
theorem relative?_of_spelled : relative? folder path = some names := by
  rw [relative?, components_of_spelled hfolder hpath hspelled hnames]
  simp

end

end EnvSchema.Files
