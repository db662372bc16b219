import EnvSchema.Glob.Search
import EnvSchema.Proofs.Files.Way
import EnvSchema.Proofs.Glob.Pattern

/-!
# What a search finds

A search for all files in a folder that have an ending goes down to the folder name by name, through
all that lies in it, and on to the names with the ending. The names of the folder stand for themselves,
whatever signs they hold.

* `Step.literal` — the step that asks for one name, and `steps_ending`, the steps of the search;
* `reached_literals_subset`, `mem_reached_literals` — where the names of a folder lead to;
* `exists_of_mem_below`, `mem_below` — all that lies in a folder;
* `exists_search_ending` — the files that are found.

Both directions go along the steps. Where a step leads to is a path that is written with one more
name; that it leads there is known because the file lies behind it.
-/

namespace EnvSchema.Glob

open Files (Tree Plain Spells isAbsolute isName join pieces rooted spelled)

variable {t : Tree} {path folder extension name x : String} {before names qs : List String}
  {p : Pattern} {ss : List Step}

/-! ### The steps of the search -/

/-- **The step that asks for one name.** -/
def Step.literal (name : String) : Step := .ofPattern (name.toList.map Glob.literal)

/-- The signs for the characters of a text are a text just if none of these is special. -/
private theorem text?_literals (cs : List Char) : Pattern.text? (cs.map literal) =
    if cs.any fun c => IsSpecial c then none else some (String.ofList cs) := by
  unfold Pattern.text?
  induction cs with
  | nil => rfl
  | cons c cs ih =>
    rw [List.map_cons, List.mapM_cons]
    -- one special character is enough to make a pattern of it
    by_cases hc : IsSpecial c
    · simp [literal, hc]
    · have hchar : literal c = .char c := if_neg hc
      rw [hchar]
      split at ih
      · next hcs =>
        rw [Option.map_eq_none_iff.1 ih, if_pos (by simpa [hc] using hcs)]
        rfl
      · next hcs =>
        obtain ⟨rest, hrest, hsame⟩ := Option.map_eq_some_iff.1 ih
        rw [hrest, if_neg (by simpa [hc] using hcs), ← String.ofList_injective hsame]
        rfl

/-- No character of a text stands for folders. -/
private theorem anyFolders_not_mem_literals (cs : List Char) : .anyFolders ∉ cs.map literal := by
  intro h
  obtain ⟨c, -, hc⟩ := List.mem_map.1 h
  unfold literal at hc
  split at hc <;> exact nomatch hc

/-- A name without special signs is asked for as it is, and another one by a pattern that stands for
nothing else. -/
theorem Step.literal_cases (name : String) : Step.literal name = .name name ∨
    Step.literal name = .some (name.toList.map Glob.literal) ∧ ∃ c ∈ name.toList, IsSpecial c := by
  rw [Step.literal, Step.ofPattern, text?_literals]
  by_cases hspecial : (name.toList.any fun c => IsSpecial c) = true
  · rw [if_pos hspecial]
    exact .inr ⟨by simp [anyFolders_not_mem_literals], by simpa using hspecial⟩
  · rw [if_neg hspecial, String.ofList_toList]
    exact .inl rfl

/-- A step that asks for a name is not one through folders, so none of them is left out. -/
theorem collapse_literals : collapse (qs.map Step.literal ++ [.folders, .some p]) =
    qs.map Step.literal ++ [.folders, .some p] := by
  induction qs with
  | nil => rfl
  | cons q qs ih =>
    rw [List.map_cons, List.cons_append]
    rcases Step.literal_cases q with h | ⟨h, -⟩ <;> rw [h, collapse, ih] <;> simp

/-- The pattern for names that end with a dot and an extension. -/
def ending (extension : String) : Pattern := .anyText :: ('.' :: extension.toList).map literal

/-- Names with an ending are asked for by the pattern for them. -/
private theorem ofPattern_ending : Step.ofPattern (ending extension) = .some (ending extension) := by
  have htext : (ending extension).text? = none := by
    unfold Pattern.text? ending
    rw [List.mapM_cons]
    rfl
  have hfolders : (ending extension).contains .anyFolders = false := by
    rw [List.contains_eq_mem, decide_eq_false_iff_not, ending, List.mem_cons, not_or]
    exact ⟨by simp, anyFolders_not_mem_literals _⟩
  rw [Step.ofPattern, htext, hfolders]
  rfl

/-- An extension without special signs is read as it is. -/
private theorem reads_ending (hext : ∀ c ∈ extension.toList, ¬ IsSpecial c) :
    Reads ('*' :: '.' :: extension.toList) (ending extension) := by
  have hplain : escaped ('.' :: extension.toList) = '.' :: extension.toList := by
    have hchar : ∀ c ∈ '.' :: extension.toList, ¬ IsSpecial c :=
      List.forall_mem_cons.2 ⟨by decide, hext⟩
    rw [escaped, List.flatMap_congr fun c hc => if_neg (hchar c hc)]
    simp
  have hreads := reads_escaped ('.' :: extension.toList) Reads.nil
  rw [List.append_nil, List.append_nil, hplain] at hreads
  exact hreads.anyText

/-- The pieces of the pattern. -/
private theorem pieces_pattern (hslash : '/' ∉ extension.toList) :
    pieces (escape folder ++ "/**/*." ++ extension) =
      (pieces folder).map escape ++ ["**", "*." ++ extension] := by
  have hparts : escape folder ++ "/**/*." ++ extension =
      escape folder ++ "/" ++ ("**" ++ "/" ++ ("*." ++ extension)) := by
    refine String.toList_inj.1 ?_
    simp
  have hlast : '/' ∉ ("*." ++ extension).toList := by simpa using hslash
  rw [hparts, Files.pieces_append_slash, Files.pieces_append_slash, Files.pieces_of_not_mem hlast,
    pieces_escape]
  rfl

/-- The pieces of the pattern behind its first slash. -/
private theorem piecesTerminated_pattern (hfolder : isAbsolute folder = true)
    (hslash : '/' ∉ extension.toList) :
    piecesTerminated (String.ofList ((escape folder ++ "/**/*." ++ extension).toList.drop 1)) =
      (pieces folder).tail.map escape ++ ["**", "*." ++ extension] := by
  have habs : isAbsolute (escape folder ++ "/**/*." ++ extension) = true := by
    obtain ⟨cs, hcs⟩ := Files.isAbsolute_iff.1 hfolder
    refine Files.isAbsolute_iff.2 ⟨escaped cs ++ "/**/*.".toList ++ extension.toList, ?_⟩
    simp [toList_escape, hcs, escaped, IsSpecial]
  have htail : (pieces (escape folder ++ "/**/*." ++ extension)).tail =
      (pieces folder).tail.map escape ++ ["**", "*." ++ extension] := by
    rw [pieces_pattern hslash, Files.pieces_of_isAbsolute hfolder]
    rfl
  -- the last piece is not empty, so none of them is left out
  have hne : "*." ++ extension ≠ "" := by simp
  rw [piecesTerminated, Files.pieces_drop habs, htail]
  simp [hne]

/-- **The steps of the search** for files in a folder with an extension. -/
theorem steps_ending (hfolder : isAbsolute folder = true) (hext : ∀ c ∈ extension.toList, ¬ IsSpecial c)
    (hslash : '/' ∉ extension.toList) : steps (escape folder ++ "/**/*." ++ extension) =
      .ok ((pieces folder).tail.map Step.literal ++ [.folders, .some (ending extension)]) := by
  -- the whole pattern can be read
  have hwhole : Pattern.parse (escape folder ++ "/**/*." ++ extension) = .ok
      (folder.toList.map literal ++ .char '/' :: .anyFolders :: ending extension) := by
    have hreads := reads_escaped folder.toList (reads_ending hext).folders
    have hchars : (escape folder ++ "/**/*." ++ extension).toList =
        escaped folder.toList ++ '/' :: '*' :: '*' :: '/' :: '*' :: '.' :: extension.toList := by
      simp [toList_escape]
    rw [Pattern.parse, hchars]
    exact hreads 0 none
  have hlast : Pattern.parse ("*." ++ extension) = .ok (ending extension) := by
    rw [Pattern.parse]
    simpa using reads_ending hext 0 none
  have hparsed : ((pieces folder).tail.map escape ++ ["**", "*." ++ extension]).mapM Pattern.parse =
      .ok ((pieces folder).tail.map (fun piece => piece.toList.map literal) ++
        [[.anyFolders], ending extension]) := by
    have hnames : ((pieces folder).tail.map escape).mapM Pattern.parse =
        .ok ((pieces folder).tail.map fun piece => piece.toList.map literal) := by
      rw [List.mapM_map]
      exact mapM_eq_ok fun piece _ => parse_escape piece
    rw [List.mapM_append, hnames, List.mapM_cons, List.mapM_cons, parse_folders, hlast]
    rfl
  rw [steps, hwhole, piecesTerminated_pattern hfolder hslash]
  change (_ >>= fun ps => Except.ok (collapse (List.map Step.ofPattern ps))) = _
  rw [hparsed]
  change Except.ok (collapse _) = _
  rw [List.map_append, List.map_map, List.map_cons, List.map_singleton, ofPattern_ending]
  exact congrArg Except.ok collapse_literals

/-! ### Down to the folder -/

/-- One name leads to what is joined with it, if it leads anywhere. -/
theorem reached_literal_subset :
    reached t (Step.literal name :: ss) path ⊆ reached t ss (join path name) := by
  intro x hx
  rcases Step.literal_cases name with h | ⟨h, -⟩ <;> rw [h] at hx
  · simp only [reached] at hx
    split at hx <;> split at hx <;> first | exact hx | exact absurd hx List.not_mem_nil
  · simp only [reached] at hx
    split at hx
    · exact absurd hx List.not_mem_nil
    · obtain ⟨n, hn, hx⟩ := List.mem_flatMap.1 hx
      -- whatever fits is the name
      have hfits : Pattern.matches (name.toList.map literal) n.toList = true := by
        rcases List.mem_append.1 hn with hn | hn
        · exact (List.mem_filter.1 hn).2
        · split at hn
          · exact (List.mem_filter.1 hn).2
          · exact absurd hn List.not_mem_nil
      rwa [String.toList_inj.1 (matches_literals_iff.1 hfits)] at hx

/-- **The names of a folder lead to it**, if they lead anywhere. -/
theorem reached_literals_subset :
    reached t (qs.map Step.literal ++ ss) path ⊆ reached t ss (qs.foldl join path) := by
  induction qs generalizing path with
  | nil => exact List.Subset.refl _
  | cons q qs ih => exact List.Subset.trans reached_literal_subset ih

section

variable {w : List String} {c : Files.Content} (hpath : Spells before path)
  (hbefore : ∀ name ∈ before, Plain name)
include hpath hbefore

/-- A name on the way to a file leads on. -/
theorem mem_reached_literal (hname : Plain name) {rest : List String}
    (h : t.Holds (before ++ name :: rest) w c) (hx : x ∈ reached t ss (join path name)) :
    x ∈ reached t (Step.literal name :: ss) path := by
  obtain ⟨v, hway, hfolder, hfollow⟩ := h.folder hbefore (List.cons_ne_nil name rest) hpath
  have hisFolder := Tree.isFolder_of_way hway hfolder
  have hjoin := hpath.join hbefore hname.2
  rcases Step.literal_cases name with hstep | ⟨hstep, d, hd, hspecial⟩
  · have hnames : ∀ other ∈ before ++ [name], Plain other :=
      List.forall_mem_append.2 ⟨hbefore, by simpa using hname⟩
    have hexists : t.exists? (join path name) = true := hjoin ▸ h.exists? hnames
    simp only [hstep, reached, hisFolder, hexists, ite_self, if_true]
    exact hx
  · -- a name with a special sign is none of the two that stand for other folders
    have hisName : isName name = true := by
      have hdot : d ≠ '.' := by
        rintro rfl
        exact absurd hspecial (by decide)
      refine Files.isName_iff.2 ⟨hname, ?_, ?_⟩ <;>
      · rintro rfl
        exact hdot (by simpa using hd)
    have hlisted : name ∈ t.namesIn v := by
      obtain ⟨-, -, hsome, -⟩ := (Tree.follow_cons_eq_ok_iff hisName).1 hfollow
      exact Tree.mem_namesIn_iff.2 hsome
    simp only [hstep, reached, hisFolder, Tree.names_of_way hway hfolder]
    refine List.mem_flatMap.2 ⟨name, List.mem_append_left _ ?_, hx⟩
    exact List.mem_filter.2 ⟨hlisted, matches_literals_iff.2 rfl⟩

/-- A slash after a folder on the way to a file leads on. -/
theorem mem_reached_empty (hne : names ≠ []) (h : t.Holds (before ++ names) w c)
    (hx : x ∈ reached t ss (join path "")) : x ∈ reached t (Step.literal "" :: ss) path := by
  have hstep : Step.literal "" = .name "" := rfl
  have hexists : t.exists? (join path "") = true := by
    rw [hpath.join hbefore (by simp), Files.rooted_append_empty]
    obtain ⟨v, hway, -⟩ := h.folder hbefore hne .folder
    exact Tree.exists?_of_way hway
  simp only [hstep, reached, hexists]
  exact hx

/-- **The names of a folder lead to it**, if a file lies in it. -/
theorem mem_reached_literals (hqs : ∀ q ∈ qs, '/' ∉ q.toList) (hne : names ≠ [])
    (h : t.Holds (before ++ qs.filter (· ≠ "") ++ names) w c)
    (hx : x ∈ reached t ss (qs.foldl join path)) : x ∈ reached t (qs.map Step.literal ++ ss) path := by
  induction qs generalizing before path with
  | nil => exact hx
  | cons q qs ih =>
    obtain ⟨hq, hrest⟩ := List.forall_mem_cons.1 hqs
    rw [List.map_cons, List.cons_append]
    -- an empty piece is a step that goes nowhere; a name leads on to the entry of that name
    by_cases hempty : q = ""
    · subst hempty
      rw [List.filter_cons_of_neg (by simp)] at h
      refine mem_reached_empty hpath hbefore (by simp [hne]) (List.append_assoc .. ▸ h) ?_
      exact ih (hpath.join_empty hbefore) hbefore hrest h hx
    · rw [List.filter_cons_of_pos (by simpa using hempty), List.append_cons] at h
      have hplain : Plain q := ⟨hempty, hq⟩
      have hhere : t.Holds (before ++ q :: (qs.filter (· ≠ "") ++ names)) w c := by
        simpa only [List.append_assoc, List.cons_append, List.nil_append] using h
      exact mem_reached_literal hpath hbefore hplain hhere
        (ih (hpath.join_name hbefore hplain) (hplain.concat hbefore) hrest h hx)

end

/-! ### Down from the folder -/

/-- **All that lies in a folder** has some more names, and they are names. -/
theorem exists_of_mem_below (ht : t.Named) {depth : Nat} (hpath : Spells before path)
    (hbefore : ∀ name ∈ before, Plain name) (hx : x ∈ below t depth path) :
    ∃ names, names ≠ [] ∧ (∀ name ∈ names, isName name = true) ∧ x = rooted (before ++ names) := by
  -- what is found is an entry of the folder or is found below one, with a name less to go
  induction depth generalizing before path with
  | zero => exact absurd hx List.not_mem_nil
  | succ depth ih =>
    rw [below] at hx
    cases hlisted : t.names path with
    | error f =>
      rw [hlisted] at hx
      exact absurd hx List.not_mem_nil
    | ok listed =>
      rw [hlisted] at hx
      obtain ⟨n, hn, hx⟩ := List.mem_flatMap.1 hx
      have hname : isName n = true := ht.isName_of_mem_names hlisted hn
      have hplain := (Files.isName_iff.1 hname).1
      rcases List.mem_cons.1 hx with rfl | hx
      · exact ⟨[n], by simp, by simpa using hname, hpath.join hbefore hplain.2⟩
      · obtain ⟨names, -, hnames, rfl⟩ :=
          ih (hpath.join_name hbefore hplain) (hplain.concat hbefore) hx
        exact ⟨n :: names, by simp, List.forall_mem_cons.2 ⟨hname, hnames⟩, by simp⟩

/-- **A file in a folder** is among all that lies in it. -/
theorem mem_below {w : List String} {c : Files.Content} {depth : Nat} (hpath : Spells before path)
    (hbefore : ∀ name ∈ before, Plain name) (hne : names ≠ [])
    (hnames : ∀ name ∈ names, isName name = true) (hdepth : names.length ≤ depth)
    (h : t.Holds (before ++ names) w c) : rooted (before ++ names) ∈ below t depth path := by
  -- the first name is one of the folder's entries, and the rest of them is found below it
  induction names generalizing before path depth with
  | nil => exact absurd rfl hne
  | cons name names ih =>
    obtain ⟨depth, rfl⟩ : ∃ d, depth = d + 1 := ⟨depth - 1, by simp at hdepth; omega⟩
    obtain ⟨hname, hrest⟩ := List.forall_mem_cons.1 hnames
    have hplain := (Files.isName_iff.1 hname).1
    obtain ⟨v, hway, hfolder, hfollow⟩ := h.folder hbefore hne hpath
    obtain ⟨-, -, hsome, -⟩ := (Tree.follow_cons_eq_ok_iff hname).1 hfollow
    rw [below, Tree.names_of_way hway hfolder]
    refine List.mem_flatMap.2 ⟨name, Tree.mem_namesIn_iff.2 hsome, ?_⟩
    cases names with
    | nil =>
      rw [hpath.join hbefore hplain.2]
      exact List.mem_cons_self
    | cons next names =>
      refine List.mem_cons_of_mem _ ?_
      rw [List.append_cons] at h ⊢
      exact ih (hpath.join_name hbefore hplain) (hplain.concat hbefore) (by simp) hrest
        (by simpa using hdepth) h

/-- No way is longer than a tree is deep. -/
theorem length_le_depth {e : List String × Files.Entry} (he : e ∈ t.entries) : e.1.length ≤ depth t := by
  have hfold (entries : List (List String × Files.Entry)) (least : Nat) :
      least ≤ entries.foldl (fun d e => max d e.1.length) least ∧
        ∀ e ∈ entries, e.1.length ≤ entries.foldl (fun d e => max d e.1.length) least := by
    induction entries generalizing least with
    | nil => simp
    | cons first entries ih =>
      obtain ⟨hleast, hall⟩ := ih (max least first.1.length)
      refine ⟨Nat.le_trans (Nat.le_max_left ..) hleast, List.forall_mem_cons.2 ⟨?_, hall⟩⟩
      exact Nat.le_trans (Nat.le_max_right ..) hleast
  exact (hfold t.entries 0).2 e he

/-! ### The files that are found -/

/-- The last name of a path that is made of names. -/
theorem lastName_rooted (hnames : ∀ name ∈ names, '/' ∉ name.toList) (hlast : names.getLast? = some name) :
    lastName (rooted names) = name := by
  rw [lastName, Files.pieces_rooted hnames, List.getLastD_eq_getLast?, List.getLast?_cons, hlast]
  rfl

/-- The last steps lead to all that lies in a folder and has the ending. -/
theorem mem_reached_folders : x ∈ reached t [.folders, .some p] path ↔
    x ∈ below t (depth t) path ∧ p.matches (lastName x).toList = true := by
  simp only [reached, List.mem_flatMap]
  constructor
  · rintro ⟨y, hy, hx⟩
    by_cases hfits : (Step.some p).fits (lastName y) = true
    · rw [if_pos hfits, List.mem_singleton] at hx
      exact hx ▸ ⟨hy, hfits⟩
    · rw [if_neg hfits] at hx
      exact absurd hx List.not_mem_nil
  · rintro ⟨hx, hfits⟩
    have hstep : (Step.some p).fits (lastName x) = true := hfits
    exact ⟨x, hx, by rw [if_pos hstep]; exact List.mem_cons_self⟩

/-- No file lies deeper in a folder than a tree is deep. -/
theorem length_le_depth_of_holds {w : List String} {c : Files.Content}
    (hnames : ∀ name ∈ names, isName name = true) (h : t.Holds (before ++ names) w c) :
    names.length ≤ depth t := by
  obtain ⟨u, -, hfollow⟩ := Tree.follow_append_eq_ok_iff.1 h.follow
  obtain ⟨e, he, hway⟩ := Tree.exists_of_get? h.file
  have hlength := length_le_depth he
  rw [hway, Tree.eq_append_of_follow hnames hfollow, List.length_append] at hlength
  omega

section

variable (hfolder : isAbsolute folder = true)
include hfolder

/-- The path that leads to the folder. -/
private theorem spells_folder : Spells (spelled folder) ((pieces folder).tail.foldl join "/") := by
  have hroot : Spells [] "/" := .folder
  rw [Files.spelled_of_isAbsolute hfolder]
  exact hroot.foldl_join (by simp) fun q hq => Files.not_mem_of_mem_pieces (List.mem_of_mem_tail hq)

/-- **The steps of the search** lead to the files whose last name has the ending. -/
theorem mem_reached_iff (ht : t.Named) (hx : t.isFile x = true) :
    x ∈ reached t ((pieces folder).tail.map Step.literal ++ [.folders, .some (ending extension)]) "/" ↔
      ∃ names last, names.getLast? = some last ∧ (∀ name ∈ names, isName name = true) ∧
        '.' :: extension.toList <:+ last.toList ∧ x = rooted (spelled folder ++ names) := by
  have hpath := spells_folder hfolder
  have hplain : ∀ name ∈ spelled folder, Plain name := fun _ => Files.plain_of_mem_spelled
  -- the pattern says of the last name that it has the ending
  have hfits {names : List String} {last : String} (hlast : names.getLast? = some last)
      (hnames : ∀ name ∈ names, isName name = true) :
      (ending extension).matches (lastName (rooted (spelled folder ++ names))).toList = true ↔
        '.' :: extension.toList <:+ last.toList := by
    have hslash : ∀ name ∈ spelled folder ++ names, '/' ∉ name.toList := fun name hname =>
      (Files.plain_append hnames name hname).2
    have hwhole : (spelled folder ++ names).getLast? = some last := by
      rw [List.getLast?_append, hlast]
      rfl
    rw [lastName_rooted hslash hwhole]
    exact matches_ending_iff
  constructor
  · intro hfound
    obtain ⟨hbelow, hending⟩ := mem_reached_folders.1 (reached_literals_subset hfound)
    obtain ⟨names, hne, hnames, rfl⟩ := exists_of_mem_below ht hpath hplain hbelow
    have hlast := List.getLast?_eq_some_getLast hne
    exact ⟨names, _, hlast, hnames, (hfits hlast hnames).1 hending, rfl⟩
  · rintro ⟨names, last, hlast, hnames, hending, rfl⟩
    have hne : names ≠ [] := by
      rintro rfl
      exact nomatch hlast
    obtain ⟨w, c, h⟩ := (Tree.isFile_rooted_iff (Files.plain_append hnames)).1 hx
    have hroot : Spells [] "/" := .folder
    refine mem_reached_literals hroot (by simp) (fun q hq => Files.not_mem_of_mem_pieces
      (List.mem_of_mem_tail hq)) hne (Files.spelled_of_isAbsolute hfolder ▸ h) ?_
    have hbelow := mem_below hpath hplain hne hnames (length_le_depth_of_holds hnames h) h
    exact mem_reached_folders.2 ⟨hbelow, (hfits hlast hnames).2 hending⟩

/-- **A search for the files in a folder with an extension** finds those whose last name ends with a
dot and the extension. -/
theorem exists_search_ending (ht : t.Named) (hext : ∀ c ∈ extension.toList, ¬ IsSpecial c)
    (hslash : '/' ∉ extension.toList) :
    ∃ found, search t (escape folder ++ "/**/*." ++ extension) = .ok found ∧
      ∀ x, t.isFile x = true → (x ∈ found ↔ ∃ names last, names.getLast? = some last ∧
        (∀ name ∈ names, isName name = true) ∧ '.' :: extension.toList <:+ last.toList ∧
        x = rooted (spelled folder ++ names)) := by
  -- a pattern that ends in a slash would look for folders only
  have hend : (escape folder ++ "/**/*." ++ extension).endsWith "/" = false := by
    rw [Bool.eq_false_iff, Ne, Files.endsWith_slash_iff]
    intro hlast
    have hsuffix : (escape folder ++ "/**/*." ++ extension).toList =
        (escape folder ++ "/**/*").toList ++ '.' :: extension.toList := by simp
    rw [hsuffix, List.getLast?_append_of_ne_nil _ (by simp)] at hlast
    rcases List.mem_cons.1 (List.mem_of_getLast? hlast) with h | h
    · exact nomatch h
    · exact hslash h
  refine ⟨_, ?_, fun x hx => mem_reached_iff hfolder ht hx⟩
  rw [search, steps_ending hfolder hext hslash, hend]
  rfl

end

end EnvSchema.Glob
