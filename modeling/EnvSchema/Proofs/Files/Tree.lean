import EnvSchema.Files.Tree
import EnvSchema.Proofs.Runs

/-!
# Writing where there is a file

When a file holds something else, all paths lead where they led, because a way through a tree hangs
only on what is a folder and what is there at all.

* `Tree.SameShape` — trees with the same ways and the same folders: paths lead along the same ways in
  both, and the same names are in the folders;
* `Tree.SameBut` — trees that differ in what one file holds;
* `Tree.readText_eq_ok_iff` — the text in a file, by the way to it;
* `Tree.writeText_eq_put`, `Tree.writeText_of_readText` — a text is written where one can be read, and
  read again;
* `Tree.extension?_of_way` — paths to one file have the same ending.
-/

namespace EnvSchema.Files.Tree

variable {t t' t'' : Tree} {w : List String} {c d : Content} {path other text source : String}

/-! ### Trees of the same shape -/

/-- **Trees of the same shape**: they have the same ways, in the same order, and the same folders. -/
structure SameShape (t t' : Tree) : Prop where
  ways : t'.entries.map (·.1) = t.entries.map (·.1)
  folder : ∀ w, t'.get? w = some .folder ↔ t.get? w = some .folder

/-- Nothing is at the end of a way that is not listed. -/
private theorem isNone_get?_iff :
    (t.get? w).isNone = true ↔ w ≠ [] ∧ ∀ v ∈ t.entries.map (·.1), v ≠ w := by
  unfold get?
  by_cases hw : w = []
  · simp [hw]
  · simp [hw]

/-- A path leads to a file if there is one at the end of its way. -/
theorem isFile_iff :
    t.isFile path = true ↔ ∃ w, t.way path = .ok w ∧ ∃ c, t.get? w = some (.file c) := by
  unfold isFile find
  cases t.way path with
  | error f => simp [bind, Except.bind]
  | ok w =>
    cases hw : t.get? w with
    | none => simp [bind, Except.bind, pure, Except.pure, hw]
    | some e => cases e <;> simp [bind, Except.bind, pure, Except.pure, hw]

/-- A path leads to a folder if there is one at the end of its way. -/
theorem isFolder_iff : t.isFolder path = true ↔
    ∃ w, t.way path = .ok w ∧ ((t.get? w).isNone = true ∨ t.get? w = some .folder) := by
  unfold isFolder find
  cases t.way path with
  | error f => simp [bind, Except.bind]
  | ok w =>
    cases hw : t.get? w with
    | none => simp [bind, Except.bind, pure, Except.pure, hw]
    | some e => cases e <;> simp [bind, Except.bind, pure, Except.pure, hw]

namespace SameShape

theorem refl (t : Tree) : t.SameShape t := ⟨rfl, fun _ => .rfl⟩

theorem trans (h : t.SameShape t') (h' : t'.SameShape t'') : t.SameShape t'' :=
  ⟨h'.ways.trans h.ways, fun w => (h'.folder w).trans (h.folder w)⟩

/-- **A file that holds something else** leaves the shape as it was. -/
theorem put (h : t.get? w = some (.file c)) (d : Content) : t.SameShape (t.put w (.file d)) where
  ways := by
    have hmem : w ∈ t.entries.map (·.1) := by
      refine Classical.byContradiction fun hnot => ?_
      have hw : w ≠ [] := by
        rintro rfl
        exact absurd h (by simp [get?])
      have hnone := isNone_get?_iff.2 ⟨hw, fun v hv hvw => hnot (hvw ▸ hv)⟩
      rw [h] at hnone
      exact absurd hnone Bool.false_ne_true
    change (putIn w _ t.entries).map (·.1) = _
    rw [map_fst_putIn, if_pos hmem]
  folder v := by
    -- at the place itself there was a file before, and there is one after
    by_cases hv : v = w
    · subst hv
      have hne : v ≠ [] := by
        rintro rfl
        exact absurd h (by simp [get?])
      rw [get?_put hne, h]
      simp
    · rw [get?_put_of_ne hv]

variable (h : t.SameShape t')
include h

/-- The same ways lead to something. -/
theorem isNone (w : List String) : (t'.get? w).isNone = (t.get? w).isNone := by
  rw [Bool.eq_iff_iff, isNone_get?_iff, isNone_get?_iff, h.ways]

/-- The same ways lead to files. -/
theorem file_iff (w : List String) :
    (∃ c, t'.get? w = some (.file c)) ↔ ∃ c, t.get? w = some (.file c) := by
  have hiff (u : Tree) : (∃ c, u.get? w = some (.file c)) ↔
      (u.get? w).isNone = false ∧ u.get? w ≠ some .folder := by
    cases u.get? w with
    | none => simp
    | some e => cases e <;> simp
  rw [hiff, hiff, h.isNone, Ne, h.folder]

/-- A path is followed along the same way. -/
theorem follow (v ps : List String) : t'.follow v ps = t.follow v ps := by
  induction ps generalizing v with
  | nil => rfl
  | cons p ps ih =>
    have hfolder := h.folder v
    simp only [Tree.follow, ih, h.isNone, bne_iff_ne, ne_eq, hfolder]

/-- A path leads along the same way. -/
theorem way (path : String) : t'.way path = t.way path := by
  unfold Tree.way
  rw [h.follow]

/-- The same paths lead to something. -/
theorem exists? (path : String) : t'.exists? path = t.exists? path := by
  unfold Tree.exists? find
  rw [h.way]
  cases t.way path <;> rfl

/-- The same paths lead to folders. -/
theorem isFolder (path : String) : t'.isFolder path = t.isFolder path := by
  rw [Bool.eq_iff_iff, isFolder_iff, isFolder_iff, h.way]
  exact exists_congr fun w => and_congr_right fun _ => by rw [h.isNone, h.folder]

/-- The same paths lead to files. -/
theorem isFile (path : String) : t'.isFile path = t.isFile path := by
  rw [Bool.eq_iff_iff, isFile_iff, isFile_iff, h.way]
  exact exists_congr fun w => and_congr_right fun _ => h.file_iff w

/-- **The same names are in a folder**, in the same order. -/
theorem names (path : String) : t'.names path = t.names path := by
  have hin (w : List String) : t'.namesIn w = t.namesIn w := by
    -- the names in a folder are told by the ways alone, not by what lies at their ends
    have hways (u : Tree) : u.namesIn w = ((u.entries.map (·.1)).filter fun v =>
        v.dropLast == w && !v.isEmpty).map fun v => v.getLastD "" := by
      rw [namesIn, List.filter_map, List.map_map]
      rfl
    rw [hways, hways, h.ways]
  unfold Tree.names
  rw [h.way]
  refine congrArg (t.way path >>= ·) (funext fun w => ?_)
  have hfolder := h.folder w
  rw [hin]
  split
  · next hw => rw [hfolder.1 hw]
  · next hw =>
    split
    · next hw' => exact absurd (hfolder.2 hw') hw
    · rfl

end SameShape

/-! ### Trees that differ in one file -/

/-- **Trees that differ in one file at most**: at the end of a way there is a file in both. -/
structure SameBut (w : List String) (t t' : Tree) : Prop where
  shape : t.SameShape t'
  elsewhere : ∀ v, v ≠ w → t'.get? v = t.get? v

namespace SameBut

theorem refl (w : List String) (t : Tree) : SameBut w t t := ⟨.refl t, fun _ _ => rfl⟩

theorem trans (h : SameBut w t t') (h' : SameBut w t' t'') : SameBut w t t'' :=
  ⟨h.shape.trans h'.shape, fun v hv => (h'.elsewhere v hv).trans (h.elsewhere v hv)⟩

/-- A file that holds something else. -/
theorem put (h : t.get? w = some (.file c)) (d : Content) : SameBut w t (t.put w (.file d)) :=
  ⟨.put h d, fun _ hv => get?_put_of_ne hv⟩

/-- What other paths lead to is read as before. -/
theorem readText (h : SameBut w t t') (hpath : t.way path ≠ .ok w) :
    t'.readText path = t.readText path := by
  have hfind : t'.find path = t.find path := by
    unfold find
    rw [h.shape.way]
    cases hway : t.way path with
    | error f => rfl
    | ok v =>
      have hv : v ≠ w := fun hv => hpath (hv ▸ hway)
      change Except.ok ((t'.get? v).getD .folder) = .ok ((t.get? v).getD .folder)
      rw [h.elsewhere v hv]
  unfold Tree.readText
  rw [hfind]

end SameBut

/-- What is read hangs on the way that a path leads along. -/
theorem readText_of_way (h : t.way path = t.way other) : t.readText path = t.readText other := by
  unfold readText find
  rw [h]

/-! ### Reading and writing -/

/-- A path leads along the same way where a file holds something else. -/
theorem way_put (h : t.get? w = some (.file c)) : (t.put w (.file d)).way path = t.way path :=
  (SameShape.put h d).way path

/-- **A text is read** at the end of the way that a path leads along. -/
theorem readText_eq_ok_iff :
    t.readText path = .ok text ↔
      ∃ w, t.way path = .ok w ∧ t.get? w = some (.file (.text text)) := by
  rw [readText, except_bind_eq_ok_iff]
  constructor
  · rintro ⟨entry, hentry, htext⟩
    obtain ⟨w, hw, hget⟩ := except_bind_eq_ok_iff.1 hentry
    refine ⟨w, hw, ?_⟩
    cases hg : t.get? w with
    | none =>
      rw [hg] at hget
      cases hget
      cases htext
    | some e =>
      rw [hg] at hget
      cases hget
      cases e with
      | folder => cases htext
      | file content =>
        cases content with
        | bytes b => cases htext
        | text s =>
          cases htext
          rfl
  · rintro ⟨w, hw, hget⟩
    refine ⟨.file (.text text), ?_, rfl⟩
    refine except_bind_eq_ok_iff.2 ⟨w, hw, ?_⟩
    rw [hget]
    rfl

/-- **A text that is written over another one** is put at the end of its way. -/
theorem writeText_eq_put (hway : t.way path = .ok w) (hget : t.get? w = some (.file (.text source)))
    (hwrite : t.writeText path text = .ok t') : t' = t.put w (.file (.text text)) := by
  rw [writeText, hway] at hwrite
  dsimp only at hwrite
  rw [hget, if_neg (by simp)] at hwrite
  exact (Except.ok.inj hwrite).symm

/-- **Where a text can be read, another one can be written**, and it is read there afterwards. -/
theorem writeText_of_readText (h : t.readText path = .ok source) (text : String) :
    ∃ t', t.writeText path text = .ok t' ∧ t'.readText path = .ok text := by
  obtain ⟨w, hw, hget⟩ := readText_eq_ok_iff.1 h
  have hne : w ≠ [] := by
    rintro rfl
    exact absurd hget (by simp [get?])
  refine ⟨t.put w (.file (.text text)), ?_, ?_⟩
  · rw [writeText, hw]
    simp [hget]
  · exact readText_eq_ok_iff.2 ⟨w, (way_put hget).trans hw, get?_put hne⟩

/-! ### The endings of paths -/

/-- Whatever lies above a place is a folder. -/
private def FoldersAbove (t : Tree) (v : List String) : Prop :=
  ∀ u, u <+: v → u ≠ v → t.get? u = some .folder

private theorem FoldersAbove.get?_of_prefix {v u : List String} (h : FoldersAbove t v)
    (hfolder : t.get? v = some .folder) (hu : u <+: v) : t.get? u = some .folder := by
  by_cases huv : u = v
  · exact huv ▸ hfolder
  · exact h u hu huv

private theorem FoldersAbove.dropLast {v : List String} (h : FoldersAbove t v)
    (hfolder : t.get? v = some .folder) : FoldersAbove t v.dropLast :=
  fun _ hu _ => h.get?_of_prefix hfolder (hu.trans (List.dropLast_prefix v))

private theorem FoldersAbove.concat {v : List String} (h : FoldersAbove t v)
    (hfolder : t.get? v = some .folder) (name : String) : FoldersAbove t (v ++ [name]) := by
  intro u hu hne
  rcases List.prefix_concat_iff.1 hu with rfl | hu
  · exact absurd rfl hne
  · exact h.get?_of_prefix hfolder hu

/-- A path that is followed to a file ends with its name. -/
private theorem getLast?_of_follow {v ps : List String} (hv : FoldersAbove t v)
    (hfollow : t.follow v ps = .ok w) (hfile : t.get? w = some (.file c)) :
    ps = [] ∧ w = v ∨ ∃ name, ps.getLast? = some name ∧ isStep name = true ∧ w.getLast? = some name := by
  induction ps generalizing v with
  | nil =>
    cases hfollow
    exact .inl ⟨rfl, rfl⟩
  | cons p ps ih =>
    -- the rest of the path has the same last name, unless nothing is left of it
    have hrest (hps : ∃ name, ps.getLast? = some name ∧ isStep name = true ∧ w.getLast? = some name) :
        ∃ name, (p :: ps).getLast? = some name ∧ isStep name = true ∧ w.getLast? = some name := by
      obtain ⟨name, hlast, hname⟩ := hps
      exact ⟨name, by rw [List.getLast?_cons, hlast]; rfl, hname⟩
    unfold follow at hfollow
    split at hfollow
    · exact nomatch hfollow
    next hfolder =>
    have hfolder : t.get? v = some .folder := by simpa using hfolder
    split at hfollow
    · rcases ih hv hfollow with ⟨-, rfl⟩ | hps
      · exact absurd (hfolder.symm.trans hfile) (by simp)
      · exact .inr (hrest hps)
    next hstep =>
    split at hfollow
    · rcases ih (hv.dropLast hfolder) hfollow with ⟨-, rfl⟩ | hps
      · -- what it goes back to is a folder
        have hback := hv.get?_of_prefix hfolder (List.dropLast_prefix v)
        exact absurd (hback.symm.trans hfile) (by simp)
      · exact .inr (hrest hps)
    split at hfollow
    · exact nomatch hfollow
    split at hfollow
    · exact nomatch hfollow
    rcases ih (hv.concat hfolder p) hfollow with ⟨rfl, rfl⟩ | hps
    · exact .inr ⟨p, rfl, by simpa using hstep, by simp⟩
    · exact .inr (hrest hps)

/-- The last component of a path to a file is the last name on its way. -/
private theorem getLast?_components (hway : t.way path = .ok w) (hfile : t.get? w = some (.file c)) :
    (components path).getLast? = w.getLast? := by
  unfold way at hway
  split at hway
  · exact nomatch hway
  -- a way that ends at a file ends with the last piece, which is therefore a step and not one back
  rcases getLast?_of_follow (fun u hu hne => absurd (List.prefix_nil.1 hu) hne) hway hfile with
    ⟨-, rfl⟩ | ⟨name, hlast, hname, hw⟩
  · exact absurd hfile (by simp [get?])
  obtain ⟨ps, hpieces⟩ := List.getLast?_eq_some_iff.1 hlast
  have hsteps : ((pieces path).filter isStep).getLast? = some name := by
    rw [hpieces, List.filter_append, List.filter_cons_of_pos hname, List.filter_nil,
      List.getLast?_append]
    rfl
  rw [hw, components]
  split
  · rw [List.getLast?_cons, hsteps]
    rfl
  split
  · rw [List.getLast?_cons, hsteps]
    rfl
  · exact hsteps

/-- **Paths to one file have the same ending.** -/
theorem extension?_of_way (hway : t.way path = .ok w) (hother : t.way other = .ok w)
    (hfile : t.get? w = some (.file c)) : extension? path = extension? other := by
  have hname : fileName? path = fileName? other := by
    unfold fileName?
    rw [getLast?_components hway hfile, getLast?_components hother hfile]
  unfold extension?
  rw [hname]

end EnvSchema.Files.Tree
