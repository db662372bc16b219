import EnvSchema.Proofs.Files.Way

/-!
# What is written is read

A text that is written is read again under the same path, whether there has been a file before or the
file is a new one. A new file stands where nothing has been, so it changes no way along which a path has
led so far.

* `Tree.follow_put_new` — ways in a tree with something new;
* `Tree.follow_new` — the way to a new file;
* `Tree.readText_of_writeText` — what has been written.
-/

namespace EnvSchema.Files.Tree

variable {t t' : Tree} {path text name : String} {v w u ps : List String} {entry : Entry}

/-- Something new stands where nothing has been. -/
theorem get?_put_new {other : Entry} (entry : Entry) (hnew : t.get? w = none) (h : t.get? v = some other) :
    (t.put w entry).get? v = some other := by
  have hne : v ≠ w := by
    rintro rfl
    exact absurd (hnew.symm.trans h) nofun
  rw [get?_put_of_ne hne, h]

/-- **Along which way a path leads** does not change by something new. -/
theorem follow_put_new (hnew : t.get? w = none) (h : t.follow v ps = .ok u) :
    (t.put w entry).follow v ps = .ok u := by
  induction ps generalizing v with
  | nil => exact h
  | cons p ps ih =>
    -- what is tested at one name is the same in both trees
    have hfolder := get?_put_new entry hnew (get?_of_follow_cons h)
    rw [follow, if_neg (by simp [get?_of_follow_cons h])] at h
    rw [follow, if_neg (by simp [hfolder])]
    split at h
    · next hstep =>
      rw [if_pos hstep]
      exact ih h
    next hstep =>
    rw [if_neg hstep]
    split at h
    · next hback =>
      rw [if_pos hback]
      exact ih h
    next hback =>
    rw [if_neg hback]
    split at h
    · cases h
    next hsize =>
    rw [if_neg hsize]
    split at h
    · cases h
    next hthere =>
    obtain ⟨other, hother⟩ : ∃ other, t.get? (v ++ [p]) = some other :=
      Option.ne_none_iff_exists'.1 (by simpa using hthere)
    rw [get?_put_new entry hnew hother, if_neg (by simp)]
    exact ih h

/-- **The way to a new file**: a name that is not in its folder. -/
theorem follow_new (entry : Entry) (hfolder : t.get? v = some .folder) (hstep : isStep name = true)
    (h : t.follow v [name] = .error .notFound) : t.get? (v ++ [name]) = none ∧
      (t.put (v ++ [name]) entry).follow v [name] = .ok (v ++ [name]) := by
  rw [follow, if_neg (by simp [hfolder]), if_neg (by simp [hstep])] at h
  -- the last step fails for one reason only here, that nothing of this name is in the folder
  split at h
  · cases h
  next hback =>
  split at h
  · cases h
  next hsize =>
  have hnew : t.get? (v ++ [name]) = none := by
    split at h
    · next hnone => exact Option.isNone_iff_eq_none.1 hnone
    · cases h
  refine ⟨hnew, ?_⟩
  rw [follow, if_neg (by simp [get?_put_new entry hnew hfolder]), if_neg (by simp [hstep]), if_neg hback,
    if_neg hsize, get?_put (by simp), if_neg (by simp)]
  rfl

/-- Of the paths that cannot be used only the empty one is not found. -/
theorem eq_empty_of_pathFault? (h : pathFault? path = some .notFound) : path = "" := by
  rw [pathFault?] at h
  split at h
  · next hempty => exact String.isEmpty_iff.1 hempty
  split at h
  · cases h
  split at h <;> cases h

/-- The way of a path that leads to a new file. -/
theorem way_of_newWay (entry : Entry) (hway : t.way path = .error .notFound) (h : t.newWay path = .ok w) :
    t.get? w = none ∧ (t.put w entry).way path = .ok w := by
  rw [newWay] at h
  split at h
  · next name folder hpieces =>
    have hsplit : pieces path = folder.reverse ++ [name] := by
      rw [← List.reverse_reverse (pieces path), hpieces, List.reverse_cons]
    split at h
    · next hstep =>
      obtain ⟨v, hv, h⟩ := except_bind_eq_ok_iff.1 h
      split at h
      · next hfolder =>
        cases h
        have hfault : pathFault? path = none := by
          cases hfault : pathFault? path with
          | none => rfl
          | some f =>
            -- an empty path is not found either, but there is no name in it for a new file
            rw [way, hfault] at hway
            cases hway
            have hempty := eq_empty_of_pathFault? hfault
            rw [hempty, pieces_of_not_mem (by simp), List.reverse_singleton] at hpieces
            rw [← (List.cons.inj hpieces).1] at hstep
            exact absurd hstep (by decide)
        rw [way, hfault] at hway
        dsimp only at hway
        rw [hsplit, follow_append, hv] at hway
        obtain ⟨hnew, hfollow⟩ := follow_new entry hfolder hstep hway
        refine ⟨hnew, way_eq_ok_iff.2 ⟨hfault, ?_⟩⟩
        rw [hsplit]
        exact follow_append_eq_ok_iff.2 ⟨v, follow_put_new hnew hv, hfollow⟩
      · cases h
    · cases h
  · cases h

/-- **A text that has been written** is read. -/
theorem readText_of_writeText (h : t.writeText path text = .ok t') : t'.readText path = .ok text := by
  rw [writeText] at h
  split at h
  · next w hway =>
    split at h
    · cases h
    · next hfolder =>
      cases h
      have hne : w ≠ [] := by
        rintro rfl
        exact hfolder (by simp [get?])
      refine readText_eq_ok_iff.2 ⟨w, ?_, get?_put hne⟩
      -- what is written over an entry keeps the way to it, and a new entry makes one
      cases hget : t.get? w with
      | none =>
        obtain ⟨hfault, hfollow⟩ := way_eq_ok_iff.1 hway
        exact way_eq_ok_iff.2 ⟨hfault, follow_put_new hget hfollow⟩
      | some e =>
        cases e with
        | folder => exact absurd hget (by simpa using hfolder)
        | file c => exact (way_put hget).trans hway
  · next hway =>
    obtain ⟨w, hw, h⟩ := except_bind_eq_ok_iff.1 h
    cases h
    obtain ⟨hnew, hway⟩ := way_of_newWay (.file (.text text)) hway hw
    have hne : w ≠ [] := by
      rintro rfl
      exact absurd hnew (by simp [get?])
    exact readText_eq_ok_iff.2 ⟨w, hway, get?_put hne⟩
  · cases h

end EnvSchema.Files.Tree
