import Mathlib.Data.List.Nodup
import Mathlib.Data.String.Basic
import EnvSchema.Proofs.Files.Path
import EnvSchema.Proofs.Files.Tree

/-!
# Following a path

A path from the root is followed name by name, and the slashes that follow one another change nothing.
So whether a file is at the end of a path hangs on the names that the path is written with, but for
its length: the shortest path with the same names leads wherever the path does.

* `Tree.follow_append`, `Tree.follow_filter` — following a path in two parts, and without the pieces
  that say nothing;
* `Tree.isFile_rooted` — a file is found by the shortest path with the same names;
* `Tree.Named` — trees whose files and folders can be told by paths;
* `Tree.SameEntries` — trees with the same entries in another order: paths lead to the same, and the same
  names are in the folders;
* `Tree.Holds`, `Tree.Holds.folder` — a file at the end of some names, and the folders on the way
  to it.
-/

namespace EnvSchema.Files

/-- **Whether files and folders may have a name**: it is not empty, is not one of the two that stand
for other folders, and holds no slash. -/
def isName (name : String) : Bool := isStep name && name != ".." && !name.toList.contains '/'

theorem isName_iff {name : String} : isName name = true ↔ Plain name ∧ name ≠ "." ∧ name ≠ ".." := by
  simp only [isName, isStep, Plain, Bool.and_eq_true, bne_iff_ne, Bool.not_eq_true',
    List.contains_eq_mem, decide_eq_false_iff_not]
  tauto

theorem isStep_of_isName {name : String} (h : isName name = true) : isStep name = true := by
  simp only [isName, Bool.and_eq_true] at h
  exact h.1.1

/-- The names of a folder and further ones may all stand between slashes. -/
theorem plain_append {folder : String} {names : List String}
    (hnames : ∀ name ∈ names, isName name = true) : ∀ name ∈ spelled folder ++ names, Plain name :=
  List.forall_mem_append.2 ⟨fun _ => plain_of_mem_spelled, fun name hname =>
    (isName_iff.1 (hnames name hname)).1⟩

namespace Tree

variable {t : Tree} {v w : List String} {path other name : String} {names ps qs : List String}

/-! ### Following names -/

/-- A path in two parts is followed one part after the other. -/
theorem follow_append : t.follow v (ps ++ qs) = t.follow v ps >>= fun w => t.follow w qs := by
  induction ps generalizing v with
  | nil => rfl
  | cons p ps ih =>
    rw [List.cons_append, follow, follow]
    -- each piece is followed for itself, and after it the rest from wherever it led
    split
    · rfl
    split
    · exact ih
    split
    · exact ih
    split
    · rfl
    split
    · rfl
    · exact ih

theorem follow_append_eq_ok_iff : t.follow v (ps ++ qs) = .ok w ↔
    ∃ u, t.follow v ps = .ok u ∧ t.follow u qs = .ok w := by
  rw [follow_append, except_bind_eq_ok_iff]

/-- A path that can be followed at all is followed from a folder. -/
theorem get?_of_follow_cons (h : t.follow v (name :: ps) = .ok w) : t.get? v = some .folder := by
  rw [follow] at h
  split at h
  · cases h
  · next hfolder => simpa using hfolder

/-- **Pieces that are empty change nothing** but that they ask for a folder. -/
theorem follow_filter (h : t.follow v ps = .ok w) : t.follow v (ps.filter (· ≠ "")) = .ok w := by
  induction ps generalizing v with
  | nil => exact h
  | cons p ps ih =>
    -- an empty piece asks for a folder and stays in it
    by_cases hp : p = ""
    · subst hp
      have hfolder := get?_of_follow_cons h
      rw [List.filter_cons_of_neg (by simp)]
      refine ih ?_
      rwa [follow, if_neg (by simp [hfolder]), if_pos (by decide)] at h
    · have hone : [p].filter (· ≠ "") = [p] := by simp [hp]
      obtain ⟨u, hu, hrest⟩ := follow_append_eq_ok_iff.1 (List.singleton_append ▸ h)
      rw [← List.singleton_append, List.filter_append, hone]
      exact follow_append_eq_ok_iff.2 ⟨u, hu, ih hrest⟩

/-- A name leads to what lies in the folder by that name. -/
theorem follow_cons_eq_ok_iff (hname : isName name = true) : t.follow v (name :: ps) = .ok w ↔
    t.get? v = some .folder ∧ name.utf8ByteSize ≤ maxName ∧ (t.get? (v ++ [name])).isSome = true ∧
      t.follow (v ++ [name]) ps = .ok w := by
  obtain ⟨⟨hempty, -⟩, hdot, hdots⟩ := isName_iff.1 hname
  have hstep : isStep name = true := by simp [isStep, hempty, hdot]
  rw [follow]
  simp only [hstep, hdots, bne_iff_ne, beq_iff_eq, Bool.not_true, Bool.false_eq_true, if_false]
  split
  · next h => simp [h]
  next hfolder =>
  have hfolder : t.get? v = some .folder := by simpa using hfolder
  split
  · next h => simp [Nat.not_le.2 h]
  next hsize =>
  split
  · next h => simp [Option.isNone_iff_eq_none.1 h]
  · next h =>
    have hsome : (t.get? (v ++ [name])).isSome = true := by simpa [Option.isSome_iff_ne_none] using h
    simp [hfolder, Nat.not_lt.1 hsize, hsome]

/-- Names lead further down. -/
theorem eq_append_of_follow (hnames : ∀ name ∈ names, isName name = true)
    (h : t.follow v names = .ok w) : w = v ++ names := by
  induction names generalizing v with
  | nil =>
    cases h
    exact (List.append_nil _).symm
  | cons name names ih =>
    obtain ⟨hname, hnames⟩ := List.forall_mem_cons.1 hnames
    obtain ⟨-, -, -, h⟩ := (follow_cons_eq_ok_iff hname).1 h
    rw [ih hnames h, List.append_assoc, List.singleton_append]

/-! ### Paths that can be used -/

theorem pathFault?_eq_none_iff : pathFault? path = none ↔
    path ≠ "" ∧ '\x00' ∉ path.toList ∧ path.utf8ByteSize ≤ maxPath := by
  rw [pathFault?]
  split
  · next h => simp [String.isEmpty_iff.1 h]
  next hempty =>
  split
  · next h => simp_all
  next hzero =>
  have hempty : path ≠ "" := fun h => hempty (String.isEmpty_iff.2 h)
  simp_all

/-- A path that can be used can be without some of its characters, if it is not without all. -/
theorem pathFault?_of_sublist (hne : path ≠ "") (hsub : path.toList.Sublist other.toList)
    (h : pathFault? other = none) : pathFault? path = none := by
  obtain ⟨-, hzero, hsize⟩ := pathFault?_eq_none_iff.1 h
  refine pathFault?_eq_none_iff.2 ⟨hne, fun hmem => hzero (hsub.mem hmem), ?_⟩
  rw [← String.utf8Len_toList] at hsize ⊢
  exact Nat.le_trans (String.utf8Len_le_of_sublist hsub) hsize

theorem way_eq_ok_iff :
    t.way path = .ok w ↔ pathFault? path = none ∧ t.follow [] (pieces path) = .ok w := by
  rw [way]
  cases pathFault? path <;> simp

/-- Behind the first slash a path is followed from the root. -/
theorem follow_root : t.follow [] ("" :: ps) = t.follow [] ps := by
  rw [follow, if_neg (by simp [get?]), if_pos (by decide)]

theorem exists?_of_way (h : t.way path = .ok w) : t.exists? path = true := by
  rw [exists?, find, h]
  rfl

theorem isFolder_of_way (h : t.way path = .ok w) (hfolder : t.get? w = some .folder) :
    t.isFolder path = true :=
  isFolder_iff.2 ⟨w, h, .inr hfolder⟩

theorem names_of_way (h : t.way path = .ok w) (hfolder : t.get? w = some .folder) :
    t.names path = .ok (t.namesIn w) := by
  refine except_bind_eq_ok_iff.2 ⟨w, h, ?_⟩
  rw [hfolder]
  rfl

/-! ### Files at the end of names -/

/-- **There is a file at the end of some names** from the root, and the path that they make up can be
used. -/
structure Holds (t : Tree) (names w : List String) (c : Content) : Prop where
  short : pathFault? (rooted names) = none
  follow : t.follow [] names = .ok w
  file : t.get? w = some (.file c)

theorem isFile_rooted_iff (hnames : ∀ name ∈ names, Plain name) :
    t.isFile (rooted names) = true ↔ ∃ w c, t.Holds names w c := by
  have hpieces := pieces_rooted fun name hname => (hnames name hname).2
  simp only [isFile_iff, way_eq_ok_iff, hpieces, follow_root]
  constructor
  · rintro ⟨w, ⟨hshort, hfollow⟩, c, hfile⟩
    exact ⟨w, c, hshort, hfollow, hfile⟩
  · rintro ⟨w, c, hshort, hfollow, hfile⟩
    exact ⟨w, ⟨hshort, hfollow⟩, c, hfile⟩

/-- **Slashes that follow one another change nothing**: a file is found by the shortest path with the
same names as well. -/
theorem isFile_rooted (habs : isAbsolute path = true) (h : t.isFile path = true) :
    t.isFile (rooted (spelled path)) = true := by
  obtain ⟨w, hway, c, hfile⟩ := isFile_iff.1 h
  obtain ⟨hfault, hfollow⟩ := way_eq_ok_iff.1 hway
  have hspelled : t.follow [] (spelled path) = .ok w := follow_filter hfollow
  have hne : rooted (spelled path) ≠ "" := by
    intro hempty
    -- the root is no file
    have hnone : spelled path = [] := by
      have hchars := congrArg String.toList hempty
      rw [toList_rooted, String.toList_empty, List.flatMap_eq_nil_iff] at hchars
      exact List.eq_nil_iff_forall_not_mem.2 fun name hname => nomatch hchars name hname
    rw [hnone] at hspelled
    cases hspelled
    exact absurd hfile (by simp [get?])
  refine (isFile_rooted_iff fun name => plain_of_mem_spelled).2 ⟨w, c, ?_, hspelled, hfile⟩
  exact pathFault?_of_sublist hne (rooted_spelled_sublist habs) hfault

/-- **What comes before the last name is a folder**, and the file lies in it under the names that are
left. -/
theorem Holds.folder {c : Content} {before more : List String} (h : t.Holds (before ++ more) w c)
    (hbefore : ∀ name ∈ before, Plain name) (hmore : more ≠ []) (hpath : Spells before path) :
    ∃ v, t.way path = .ok v ∧ t.get? v = some .folder ∧ t.follow v more = .ok w := by
  obtain ⟨v, hv, hrest⟩ := follow_append_eq_ok_iff.1 h.follow
  have hfolder : t.get? v = some .folder := by
    obtain ⟨name, rest, rfl⟩ := List.exists_cons_of_ne_nil hmore
    exact get?_of_follow_cons hrest
  -- the way to the file passes through the folder before it goes on to more
  have hne : path ≠ "" := by
    rintro rfl
    obtain ⟨cs, hcs⟩ := isAbsolute_iff.1 hpath.isAbsolute
    exact nomatch hcs
  refine ⟨v, way_eq_ok_iff.2 ⟨pathFault?_of_sublist hne (hpath.sublist hmore) h.short, ?_⟩, hfolder, hrest⟩
  have hplain : ∀ name ∈ before, '/' ∉ name.toList := fun name hname => (hbefore name hname).2
  cases hpath with
  | folder =>
    -- a path that ends in a slash has an empty piece at its end, which stays in the folder
    have hslash : ∀ name ∈ before ++ [""], '/' ∉ name.toList := by
      exact List.forall_mem_append.2 ⟨hplain, by simp⟩
    rw [← rooted_append_empty, pieces_rooted hslash, follow_root]
    refine follow_append_eq_ok_iff.2 ⟨v, hv, ?_⟩
    rw [Tree.follow, if_neg (by simp [hfolder]), if_pos (by decide)]
    rfl
  | entry => rwa [pieces_rooted hplain, follow_root]

/-- Each of the names leads to something. -/
theorem Holds.exists? {c : Content} {before rest : List String}
    (h : t.Holds (before ++ name :: rest) w c)
    (hnames : ∀ other ∈ before ++ [name], Plain other) : t.exists? (rooted (before ++ [name])) = true := by
  obtain ⟨u, hu, -⟩ := follow_append_eq_ok_iff.1 (List.append_cons .. ▸ h.follow)
  refine exists?_of_way (w := u) (way_eq_ok_iff.2 ⟨?_, ?_⟩)
  · refine pathFault?_of_sublist ?_ ?_ h.short
    · rw [rooted_append_singleton]
      simp
    · simp [toList_rooted]
  · rwa [pieces_rooted fun other hother => (hnames other hother).2, follow_root]

/-! ### The names in a folder -/

/-- A file is listed under its way. -/
theorem exists_of_get? {c : Content} (h : t.get? w = some (.file c)) : ∃ e ∈ t.entries, e.1 = w := by
  rw [get?] at h
  split at h
  · cases h
  · obtain ⟨e, he, -⟩ := Option.map_eq_some_iff.1 h
    exact ⟨e, List.mem_of_find?_eq_some he, by simpa using List.find?_some he⟩

/-- A way is the way to the folder that it ends in, and a name. -/
private theorem eq_append_of_dropLast (h : w.dropLast = v) (hne : w ≠ []) : w = v ++ [w.getLastD ""] := by
  rw [← h, List.getLastD_eq_getLast?, List.getLast?_eq_some_getLast hne, Option.getD_some,
    List.dropLast_append_getLast hne]

/-- What is listed for a folder is at the end of a way from it. -/
private theorem mem_namesIn : name ∈ t.namesIn v ↔ ∃ e ∈ t.entries, e.1 = v ++ [name] := by
  simp only [namesIn, List.mem_map, List.mem_filter, Bool.and_eq_true, beq_iff_eq]
  constructor
  · rintro ⟨e, ⟨he, hparent, hne⟩, rfl⟩
    exact ⟨e, he, eq_append_of_dropLast hparent (by simpa using hne)⟩
  · rintro ⟨e, he, hway⟩
    exact ⟨e, ⟨he, by simp [hway]⟩, by simp [hway]⟩

/-- **The names in a folder** are those under which something lies in it. -/
theorem mem_namesIn_iff : name ∈ t.namesIn v ↔ (t.get? (v ++ [name])).isSome = true := by
  rw [mem_namesIn, get?]
  simp

/-- **Trees whose files and folders can be told by paths**: all their names are names. -/
def Named (t : Tree) : Prop := ∀ e ∈ t.entries, ∀ name ∈ e.1, isName name = true

instance : Decidable t.Named := inferInstanceAs (Decidable (∀ e ∈ t.entries, _))

theorem Named.isName (ht : t.Named) (h : name ∈ t.namesIn v) : isName name = true := by
  obtain ⟨e, he, hway⟩ := mem_namesIn.1 h
  exact ht e he name (hway ▸ List.mem_append_right _ List.mem_cons_self)

/-- What is listed for a folder are names. -/
theorem Named.isName_of_mem_names {listed : List String} (ht : t.Named)
    (h : t.names path = .ok listed) (hname : name ∈ listed) : Files.isName name = true := by
  rw [Tree.names] at h
  obtain ⟨w, -, h⟩ := except_bind_eq_ok_iff.1 h
  split at h
  · cases h
    exact ht.isName hname
  · exact nomatch h

/-! ### Trees listed in another order -/

/-- What is at the end of a way is listed with it. -/
theorem get?_eq_some_iff {entry : Entry} (hw : w ≠ []) :
    t.get? w = some entry ↔ (w, entry) ∈ t.entries := by
  rw [get?, List.isEmpty_eq_false_iff.2 hw, if_neg Bool.false_ne_true, Option.map_eq_some_iff]
  constructor
  · rintro ⟨e, he, rfl⟩
    obtain rfl : e.1 = w := by simpa using List.find?_some he
    exact List.mem_of_find?_eq_some he
  · -- the entry that is found first is the one meant, since no way has two of them
    intro h
    have hsome : (t.entries.find? fun e => e.1 == w).isSome = true :=
      List.find?_isSome.2 ⟨_, h, beq_self_eq_true w⟩
    obtain ⟨e, he⟩ := Option.isSome_iff_exists.1 hsome
    have hway : e.1 = w := by simpa using List.find?_some he
    refine ⟨e, he, ?_⟩
    rw [List.inj_on_of_nodup_map t.distinct (List.mem_of_find?_eq_some he) h hway]

/-- No name is listed twice for a folder. -/
theorem nodup_namesIn (t : Tree) (v : List String) : (t.namesIn v).Nodup := by
  refine (List.Nodup.of_map _ t.distinct).filter _ |>.map_on fun e he e' he' hname => ?_
  rw [List.mem_filter, Bool.and_eq_true, beq_iff_eq, Bool.not_eq_true', List.isEmpty_eq_false_iff] at he he'
  refine List.inj_on_of_nodup_map t.distinct he.1 he'.1 ?_
  rw [eq_append_of_dropLast he.2.1 he.2.2, eq_append_of_dropLast he'.2.1 he'.2.2, hname]

theorem nodup_of_names {listed : List String} (h : t.names path = .ok listed) : listed.Nodup := by
  rw [Tree.names] at h
  obtain ⟨w, -, h⟩ := except_bind_eq_ok_iff.1 h
  split at h
  · cases h
    exact t.nodup_namesIn w
  · exact nomatch h

/-- **Trees with the same entries**, in whatever order these are listed. -/
def SameEntries (t t' : Tree) : Prop := t.entries.Perm t'.entries

namespace SameEntries

variable {t' : Tree} (h : t.SameEntries t')
include h

/-- The same ways lead to the same. -/
theorem get? (w : List String) : t'.get? w = t.get? w := by
  by_cases hw : w = []
  · simp [Tree.get?, hw]
  · refine Option.ext fun entry => ?_
    rw [get?_eq_some_iff hw, get?_eq_some_iff hw]
    exact h.symm.mem_iff

/-- A path leads along the same way. -/
theorem way (path : String) : t'.way path = t.way path := by
  have hfollow (v ps : List String) : t'.follow v ps = t.follow v ps := by
    induction ps generalizing v with
    | nil => rfl
    | cons p ps ih => simp only [Tree.follow, ih, h.get?]
  unfold Tree.way
  rw [hfollow]

/-- A path leads to the same. -/
theorem find (path : String) : t'.find path = t.find path := by
  unfold Tree.find
  simp only [h.way, h.get?]

/-- The same names are in a folder, in whatever order. -/
theorem names_cases (path : String) :
    (∃ f, t.names path = .error f ∧ t'.names path = .error f) ∨
      ∃ listed listed', t.names path = .ok listed ∧ t'.names path = .ok listed' ∧
        listed'.Perm listed := by
  unfold Tree.names
  rw [h.way]
  cases t.way path with
  | error f => exact .inl ⟨f, rfl, rfl⟩
  | ok w =>
    simp only [bind, Except.bind, h.get?]
    split
    · exact .inr ⟨_, _, rfl, rfl, (h.symm.filter _).map _⟩
    · exact .inl ⟨.notFolder, rfl, rfl⟩

end SameEntries

end Tree

end EnvSchema.Files
