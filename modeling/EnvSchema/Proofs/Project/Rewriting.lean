import EnvSchema.Project.Environment
import EnvSchema.Proofs.Files.Tree
import EnvSchema.Proofs.Project.SchemaFile
import EnvSchema.Proofs.Project.Sources

/-!
# A project in which one file is rewritten

Which files there are does not hang on what they hold. So where one file holds something else, the same
files are searched, in the same order, and the same files may hold the schema. What the files hold
matters in three places only:

* `environment_eq` — the variables that the project runs with, if the file sets none of them;
* `schemaFile_of_rewritten` — the choice of the schema, if the file is the schema and mentions the
  server's object afterwards;
* `readsIn_of_rewritten`, `searchable_of_rewritten` — what the other files read.

The variables and the sources are asked for in each run of a check, after the schema has been written
in the run before.
-/

namespace EnvSchema

open Files (Tree join)

variable {t t' : Tree}

namespace Glob

/-- A tree is as deep as another one of its shape. -/
private theorem depth_eq (h : t.SameShape t') : depth t' = depth t := by
  have hways (u : Tree) : depth u = (u.entries.map (·.1)).foldl (fun d v => max d v.length) 0 := by
    rw [depth, List.foldl_map]
  rw [hways, hways, h.ways]

/-- The same paths lie below a folder. -/
private theorem below_eq (h : t.SameShape t') (depth : Nat) (path : String) :
    below t' depth path = below t depth path := by
  induction depth generalizing path with
  | zero => rfl
  | succ depth ih =>
    rw [below, below, h.names]
    simp only [ih]

/-- **Steps lead to the same paths.** -/
private theorem reached_eq (h : t.SameShape t') : ∀ ss path, reached t' ss path = reached t ss path
  | [], path => by rw [reached, reached]
  | .name text :: ss, path => by
    rw [reached, reached, h.isFolder, h.exists?, reached_eq h ss]
  | .folders :: [], path => by
    rw [reached, reached, depth_eq h, below_eq h, funext h.isFolder]
  | .folders :: s :: ss, path => by
    rw [reached, reached, depth_eq h, below_eq h]
    simp only [reached_eq h ss]
  | .some pattern :: ss, path => by
    rw [reached, reached, h.isFolder, h.names]
    simp only [reached_eq h ss]

/-- **A pattern leads to the same paths**, in the same order. -/
theorem search_eq (h : t.SameShape t') (pattern : String) : search t' pattern = search t pattern := by
  unfold search
  simp only [reached_eq h, funext h.isFolder]

end Glob

namespace Project

/-- **The same files are searched**, in the same order. -/
theorem sourceFiles_eq (h : t.SameShape t') (folder : String) (extensions exclude : List String) :
    sourceFiles t' folder extensions exclude = sourceFiles t folder extensions exclude := by
  have hending : filesEnding t' folder exclude = filesEnding t folder exclude := by
    funext extension
    unfold filesEnding
    rw [Glob.search_eq h]
    simp only [h.isFile]
  unfold sourceFiles
  rw [hending]

variable {w : List String} {name path text root : String} {paths : List String}

/-! ### The variables that the project runs with -/

/-- **The same variables are set**, if no file that sets any is the one that has been rewritten. -/
theorem environment_eq (h : Tree.SameBut w t t') {settings : EnvironmentSettings}
    (hapart : settings.source = .files → ∀ file ∈ variableFiles, t.way (join root file) ≠ .ok w)
    (process : List String) :
    environment t' root settings process = environment t root settings process := by
  unfold environment
  cases hsource : settings.source with
  | process => rfl
  | files =>
    -- the files of variables are read at other places than the one that was rewritten
    have hfiles : fileVariables t' root = fileVariables t root := by
      unfold fileVariables
      refine congrArg (· >>= _) (mapM_eq_mapM fun path hpath => ?_)
      obtain ⟨file, hfile, rfl⟩ := List.mem_map.1 hpath
      unfold variablesOf
      rw [h.shape.exists?, h.readText (hapart hsource file hfile)]
    dsimp only
    rw [hfiles]

/-! ### The choice of the schema -/

/-- The first file that mentions the object is the one that has been rewritten, if that mentions it now
and those before it were passed over. -/
private theorem selects_of_rewritten (h : Tree.SameBut w t t') {folder : String} {settings : SchemaSettings}
    {before after : List String} (hfile : settings.file = none)
    (hnames : IsCandidates t' folder (before ++ name :: after))
    (husual : "schema.mjs" ∉ before ++ name :: after)
    (hbefore : ∀ other ∈ before, PassedOver t settings.object (join folder other))
    (hway : t.way (join folder name) = .ok w) (hread : ∀ q, t.way q = .ok w → t'.readText q = .ok text)
    (hmention : settings.object.toList <:+: text.toList) :
    ∃ q, Selects t' folder settings (.ok q) ∧ t.way q = .ok w := by
  have hpassed {other : String} (hapart : t.way (join folder other) ≠ .ok w) (hother : other ∈ before) :
      PassedOver t' settings.object (join folder other) := by
    obtain ⟨text', hread', hnot⟩ := hbefore other hother
    exact ⟨text', (h.readText hapart).trans hread', hnot⟩
  -- several names may lead to the file, and the first of them decides
  obtain hall | ⟨front, first, back, rfl, hfront, hfirst⟩ :=
    forall_or_exists_first (p := fun other => t.way (join folder other) ≠ .ok w) before
  · refine ⟨join folder name, .mentioning hfile hnames husual ?_ (hread _ hway) hmention, hway⟩
    exact fun other hother => hpassed (hall other hother) hother
  · have hway' : t.way (join folder first) = .ok w := not_not.1 hfirst
    rw [List.append_assoc, List.cons_append] at hnames husual
    refine ⟨join folder first, .mentioning hfile hnames husual ?_ (hread _ hway') hmention, hway'⟩
    exact fun other hother => hpassed (hfront other hother) (List.mem_append_left _ hother)

/-- **The schema is in the file that has been rewritten**, if it was before and the file mentions the
server's object now. -/
theorem schemaFile_of_rewritten (h : Tree.SameBut w t t') {folder : String}
    {settings : SchemaSettings} (hselected : schemaFile t folder settings = .ok path)
    (hway : t.way path = .ok w) (hmention : ∀ q, t.way q = .ok w → t'.readText q = .ok text)
    (hcontains : contains settings.object.toList text.toList = true) :
    ∃ q, schemaFile t' folder settings = .ok q ∧ t.way q = .ok w := by
  have hinfix := contains_iff.1 hcontains
  have hthere {names : List String} (hnames : IsCandidates t folder names) : IsCandidates t' folder names :=
    candidates_eq_ok_iff.1 ((candidates_eq_of_sameShape h.shape folder).trans (candidates_eq_ok_iff.2 hnames))
  suffices hselects : ∃ q, Selects t' folder settings (.ok q) ∧ t.way q = .ok w from
    hselects.imp fun _ hq => ⟨hq.1.eq, hq.2⟩
  generalize hr : (Except.ok path : Except Failure String) = r at hselected
  cases schemaFile_eq_iff.1 hselected with
  | named hfile hexists =>
    cases hr
    exact ⟨_, .named hfile ((h.shape.isFile _).trans hexists), hway⟩
  | missing | unlisted | unreadable | none => cases hr
  | usual hfile hnames husual =>
    cases hr
    exact ⟨_, .usual hfile (hthere hnames) husual, hway⟩
  | mentioning hfile hnames husual hbefore _ _ =>
    cases hr
    exact selects_of_rewritten h hfile (hthere hnames) husual hbefore hway hmention hinfix
  | second hfile hnames husual hall hsecond =>
    cases hr
    obtain ⟨before, after, rfl⟩ := List.append_of_mem (List.mem_of_getElem? hsecond)
    refine selects_of_rewritten h hfile (hthere hnames) husual (fun other hother => ?_) hway hmention hinfix
    exact hall other (List.mem_append_left _ hother)

/-! ### What the sources read -/

/-- Other files read what they read. -/
theorem readsIn_of_rewritten (h : Tree.SameBut w t t') (hpath : t.way path ≠ .ok w) :
    ReadsIn t' path name ↔ ReadsIn t path name := by
  unfold ReadsIn
  rw [h.readText hpath]

/-- Other files can be searched if they could be. -/
theorem searchable_of_rewritten (h : Tree.SameBut w t t') (hpath : t.way path ≠ .ok w) :
    Searchable t' path ↔ Searchable t path := by
  unfold Searchable
  rw [h.readText hpath]

end Project

end EnvSchema
