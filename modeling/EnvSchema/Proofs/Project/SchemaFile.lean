import EnvSchema.Names
import EnvSchema.Project.SchemaFile
import EnvSchema.Proofs.Files.Way

/-!
# Which file holds the schema

The file that holds the schema is told by what is in the folder of the env modules, and the order in which
the folder is listed does not matter. Of four rules the first one that applies decides: the settings name
the file, a file has the usual name, a file mentions the object with the server's fields, there is a second
file. Files are read for the third rule only, in the order of their names, up to the one that decides.

* `contains_iff` — what it is for a text to contain another one;
* `IsCandidates`, `candidates_eq_ok_iff` — the files that may hold the schema;
* `Selects`, `schemaFile_eq_iff` — the four rules, and that they decide;
* `schemaFile_decided` — that nothing else does.
-/

namespace EnvSchema.Project

open Files (Tree join)

variable {t t' : Tree} {folder name path object : String} {names before after paths : List String}
  {settings : SchemaSettings}

/-- **A text contains another one** if that is a part of it. -/
theorem contains_iff {part text : List Char} : contains part text = true ↔ part <:+: text := by
  induction text with
  | nil => simp [contains]
  | cons c cs ih =>
    rw [contains, Bool.or_eq_true, List.isPrefixOf_iff_prefix, ih, List.infix_cons_iff]

/-! ### The files that may hold the schema -/

/-- **The names of the files that may hold the schema**: those in a folder with the ending of modules, in
strict order. -/
structure IsCandidates (t : Tree) (folder : String) (names : List String) : Prop where
  ordered : names.Pairwise (· < ·)
  listed : ∃ all, t.names folder = .ok all ∧ ∀ name, name ∈ names ↔
    name ∈ all ∧ t.isFile (join folder name) = true ∧ Files.extension? name = some "mjs"

private theorem mergeSort_pairwise_le (names : List String) :
    (names.mergeSort (· ≤ ·)).Pairwise (· ≤ ·) := by
  have h : (names.mergeSort fun a b => decide (a ≤ b)).Pairwise fun a b => decide (a ≤ b) = true := by
    refine List.pairwise_mergeSort (fun a b c hab hbc => ?_) (fun a b => ?_) names
    · rw [decide_eq_true_iff] at hab hbc ⊢
      exact String.le_trans hab hbc
    · simpa using String.le_total a b
  exact h.imp fun hab => of_decide_eq_true hab

/-- There is one order to list files in. -/
private theorem mergeSort_eq_of_perm {names names' : List String} (h : names'.Perm names) :
    names'.mergeSort (· ≤ ·) = names.mergeSort (· ≤ ·) := by
  refine List.Perm.eq_of_pairwise (fun a b _ _ hab hba => String.le_antisymm hab hba)
    (mergeSort_pairwise_le names') (mergeSort_pairwise_le names) ?_
  exact (List.mergeSort_perm ..).trans (h.trans (List.mergeSort_perm ..).symm)

/-- A folder has one list of files that may hold the schema. -/
theorem IsCandidates.unique {names' : List String} (h : IsCandidates t folder names)
    (h' : IsCandidates t folder names') : names' = names := by
  obtain ⟨all, hall, hmem⟩ := h.listed
  obtain ⟨all', hall', hmem'⟩ := h'.listed
  cases hall.symm.trans hall'
  have hsame : (⟨names', h'.ordered⟩ : Names) = ⟨names, h.ordered⟩ :=
    Names.ext fun name => (hmem' name).trans (hmem name).symm
  exact congrArg Names.toList hsame

/-- A folder that is listed has files that may hold the schema, if only none. -/
private theorem isCandidates_filter {all : List String} (h : t.names folder = .ok all) :
    candidates t folder = .ok ((all.mergeSort (· ≤ ·)).filter fun name =>
      t.isFile (join folder name) && Files.extension? name == some moduleExtension) ∧
    IsCandidates t folder ((all.mergeSort (· ≤ ·)).filter fun name =>
      t.isFile (join folder name) && Files.extension? name == some moduleExtension) := by
  refine ⟨by rw [candidates, h]; rfl, ?_, all, h, fun name => ?_⟩
  · refine List.Pairwise.filter _ ?_
    have hnodup : (all.mergeSort (· ≤ ·)).Nodup :=
      (List.mergeSort_perm ..).nodup_iff.2 (Tree.nodup_of_names h)
    refine (mergeSort_pairwise_le all).imp₂ (fun a b hle hne => ?_) hnodup
    exact Classical.byContradiction fun hlt => hne (String.le_antisymm hle (String.not_lt.1 hlt))
  · simp [moduleExtension]

/-- **The files that may hold the schema** are those that are listed for the folder, whatever the order of
the list is. -/
theorem candidates_eq_ok_iff : candidates t folder = .ok names ↔ IsCandidates t folder names := by
  constructor
  · intro h
    obtain ⟨all, hall, -⟩ := except_bind_eq_ok_iff.1 h
    rw [Files.orFailAt, mapError_eq_ok_iff] at hall
    obtain ⟨hsame, hcandidates⟩ := isCandidates_filter hall
    cases h.symm.trans hsame
    exact hcandidates
  · intro h
    obtain ⟨all, hall, -⟩ := h.listed
    obtain ⟨hsame, hcandidates⟩ := isCandidates_filter hall
    rw [hsame, h.unique hcandidates]

/-! ### The rules -/

/-- **A file is passed over** if its text can be read and does not mention the object. -/
def PassedOver (t : Tree) (object path : String) : Prop :=
  ∃ text, t.readText path = .ok text ∧ ¬ object.toList <:+: text.toList

/-- **The rules by which the file that holds the schema is selected**, each with what comes of it. -/
inductive Selects (t : Tree) (folder : String) (settings : SchemaSettings) :
    Except Failure String → Prop
  /-- The settings name a file. -/
  | named {name : String} (hfile : settings.file = some name) (h : t.isFile (join folder name) = true) :
    Selects t folder settings (.ok (join folder name))
  /-- The settings name a file that is not there. -/
  | missing {name : String} (hfile : settings.file = some name) (h : t.isFile (join folder name) = false) :
    Selects t folder settings (.error (.noSchemaFile folder))
  /-- The folder cannot be listed. -/
  | unlisted {fault : Files.Fault} (hfile : settings.file = none) (h : t.names folder = .error fault) :
    Selects t folder settings (.error (.file (some (.read, folder)) fault))
  /-- There is a file with the usual name. -/
  | usual {names : List String} (hfile : settings.file = none) (hnames : IsCandidates t folder names)
    (h : "schema.mjs" ∈ names) : Selects t folder settings (.ok (join folder "schema.mjs"))
  /-- A file mentions the object, and those before it are passed over. -/
  | mentioning {before after : List String} {name text : String} (hfile : settings.file = none)
    (hnames : IsCandidates t folder (before ++ name :: after))
    (husual : "schema.mjs" ∉ before ++ name :: after)
    (hbefore : ∀ other ∈ before, PassedOver t settings.object (join folder other))
    (hread : t.readText (join folder name) = .ok text) (h : settings.object.toList <:+: text.toList) :
    Selects t folder settings (.ok (join folder name))
  /-- A file cannot be read, and those before it are passed over. -/
  | unreadable {before after : List String} {name : String} {fault : Files.Fault}
    (hfile : settings.file = none) (hnames : IsCandidates t folder (before ++ name :: after))
    (husual : "schema.mjs" ∉ before ++ name :: after)
    (hbefore : ∀ other ∈ before, PassedOver t settings.object (join folder other))
    (h : t.readText (join folder name) = .error fault) :
    Selects t folder settings (.error (.file (some (.read, join folder name)) fault))
  /-- All files are passed over, and there is a second one. -/
  | second {names : List String} {name : String} (hfile : settings.file = none)
    (hnames : IsCandidates t folder names) (husual : "schema.mjs" ∉ names)
    (hall : ∀ other ∈ names, PassedOver t settings.object (join folder other))
    (h : names[1]? = some name) : Selects t folder settings (.ok (join folder name))
  /-- All files are passed over, and there is no second one. -/
  | none {names : List String} (hfile : settings.file = none)
    (hnames : IsCandidates t folder names) (husual : "schema.mjs" ∉ names)
    (hall : ∀ other ∈ names, PassedOver t settings.object (join folder other))
    (h : names[1]? = none) : Selects t folder settings (.error (.noSchemaFile folder))

/-- Files that are passed over do not matter to which one is the first to mention the object. -/
theorem firstMentioning_append (h : ∀ path ∈ before, PassedOver t object path) :
    firstMentioning t object (before ++ paths) = firstMentioning t object paths := by
  induction before with
  | nil => rfl
  | cons path before ih =>
    obtain ⟨⟨text, hread, hnot⟩, hbefore⟩ := List.forall_mem_cons.1 h
    rw [List.cons_append, firstMentioning, hread, ← ih hbefore]
    exact if_neg (mt contains_iff.1 hnot)

/-- A file that mentions the object is the first one to do so if it is the first one. -/
theorem firstMentioning_cons {text : String} (hread : t.readText path = .ok text)
    (h : object.toList <:+: text.toList) : firstMentioning t object (path :: paths) = .ok (some path) := by
  rw [firstMentioning, hread]
  exact if_pos (contains_iff.2 h)

/-- Where all files are passed over, none mentions the object. -/
theorem firstMentioning_eq_none (h : ∀ path ∈ paths, PassedOver t object path) :
    firstMentioning t object paths = .ok none := by
  rw [← List.append_nil paths, firstMentioning_append h]
  rfl

/-- **What comes of the files that may hold the schema** if the settings name none. -/
private theorem schemaFile_of_candidates (hfile : settings.file = none) (hnames : IsCandidates t folder names) :
    schemaFile t folder settings =
      if "schema.mjs" ∈ names then .ok (join folder "schema.mjs")
      else firstMentioning t settings.object (names.map (join folder)) >>= fun
        | some path => .ok path
        | none =>
          match (names.map (join folder))[1]? with
          | some path => .ok path
          | none => .error (.noSchemaFile folder) := by
  rw [schemaFile, hfile]
  dsimp only
  rw [candidates_eq_ok_iff.2 hnames]
  change (if names.contains usualName = true then _ else _) = _
  simp only [List.contains_iff_mem, usualName]
  rfl

/-- **The rules decide.** -/
theorem Selects.eq {r : Except Failure String} (h : Selects t folder settings r) :
    schemaFile t folder settings = r := by
  have hpassed {l : List String} (hl : ∀ other ∈ l, PassedOver t settings.object (join folder other)) :
      ∀ path ∈ l.map (join folder), PassedOver t settings.object path := by
    simpa using hl
  -- one case for each rule: the modules before the one that decides are passed over, and then it decides
  cases h with
  | named hfile h =>
    rw [schemaFile, hfile]
    exact if_pos h
  | missing hfile h =>
    rw [schemaFile, hfile]
    exact if_neg (by simp [h])
  | unlisted hfile h =>
    rw [schemaFile, hfile, candidates, h]
    rfl
  | usual hfile hnames h =>
    rw [schemaFile_of_candidates hfile hnames, if_pos h]
  | mentioning hfile hnames husual hbefore hread h =>
    rw [schemaFile_of_candidates hfile hnames, if_neg husual, List.map_append, List.map_cons,
      firstMentioning_append (hpassed hbefore), firstMentioning_cons hread h]
    rfl
  | unreadable hfile hnames husual hbefore h =>
    rw [schemaFile_of_candidates hfile hnames, if_neg husual, List.map_append, List.map_cons,
      firstMentioning_append (hpassed hbefore), firstMentioning, h]
    rfl
  | second hfile hnames husual hall h =>
    rw [schemaFile_of_candidates hfile hnames, if_neg husual, firstMentioning_eq_none (hpassed hall),
      List.getElem?_map, h]
    rfl
  | none hfile hnames husual hall h =>
    rw [schemaFile_of_candidates hfile hnames, if_neg husual, firstMentioning_eq_none (hpassed hall),
      List.getElem?_map, h]
    rfl

/-- All members of a list are as they are to be, or there is a first one that is not. -/
theorem forall_or_exists_first {p : String → Prop} (l : List String) :
    (∀ x ∈ l, p x) ∨ ∃ before x after, l = before ++ x :: after ∧ (∀ y ∈ before, p y) ∧ ¬ p x := by
  induction l with
  | nil => exact .inl (fun x hx => absurd hx List.not_mem_nil)
  | cons a l ih =>
    by_cases ha : p a
    · obtain hall | ⟨before, x, after, rfl, hbefore, hx⟩ := ih
      · exact .inl (List.forall_mem_cons.2 ⟨ha, hall⟩)
      · exact .inr ⟨a :: before, x, after, rfl, List.forall_mem_cons.2 ⟨ha, hbefore⟩, hx⟩
    · exact .inr ⟨[], a, l, rfl, fun y hy => absurd hy List.not_mem_nil, ha⟩

/-- **One of the rules applies.** -/
theorem exists_selects (t : Tree) (folder : String) (settings : SchemaSettings) :
    ∃ r, Selects t folder settings r := by
  cases hfile : settings.file with
  | some name =>
    cases h : t.isFile (join folder name) with
    | true => exact ⟨_, .named hfile h⟩
    | false => exact ⟨_, .missing hfile h⟩
  | none =>
    cases hlisted : t.names folder with
    | error fault => exact ⟨_, .unlisted hfile hlisted⟩
    | ok all =>
      obtain ⟨names, hnames⟩ : ∃ names, IsCandidates t folder names := ⟨_, (isCandidates_filter hlisted).2⟩
      by_cases husual : "schema.mjs" ∈ names
      · exact ⟨_, .usual hfile hnames husual⟩
      -- the first file that is not passed over decides: it mentions the object, or cannot be read
      obtain hall | ⟨before, name, after, rfl, hbefore, hname⟩ :=
        forall_or_exists_first (p := fun other => PassedOver t settings.object (join folder other)) names
      · cases h : names[1]? with
        | some name => exact ⟨_, .second hfile hnames husual hall h⟩
        | none => exact ⟨_, .none hfile hnames husual hall h⟩
      · cases hread : t.readText (join folder name) with
        | error fault => exact ⟨_, .unreadable hfile hnames husual hbefore hread⟩
        | ok text =>
          have hmention : settings.object.toList <:+: text.toList :=
            Classical.byContradiction fun hnot => hname ⟨text, hread, hnot⟩
          exact ⟨_, .mentioning hfile hnames husual hbefore hread hmention⟩

/-- **The file that holds the schema** is what one of the rules selects. -/
theorem schemaFile_eq_iff {r : Except Failure String} :
    schemaFile t folder settings = r ↔ Selects t folder settings r := by
  refine ⟨?_, Selects.eq⟩
  rintro rfl
  obtain ⟨r, h⟩ := exists_selects t folder settings
  rwa [h.eq]

/-! ### What does not matter -/

/-- **The choice hangs on** which files there are, and on which one is the first to mention the object. -/
theorem schemaFile_congr (hfile : ∀ path, t'.isFile path = t.isFile path)
    (hcandidates : candidates t' folder = candidates t folder)
    (hfirst : settings.file = none → ∀ names, IsCandidates t folder names → "schema.mjs" ∉ names →
      firstMentioning t' settings.object (names.map (join folder)) =
        firstMentioning t settings.object (names.map (join folder))) :
    schemaFile t' folder settings = schemaFile t folder settings := by
  cases hnamed : settings.file with
  | some name =>
    rw [schemaFile, schemaFile, hnamed]
    dsimp only
    rw [hfile]
  | none =>
    -- the names are the same, so only the look into the modules could tell the two apart
    cases hnames : candidates t folder with
    | error e =>
      rw [schemaFile, schemaFile, hnamed]
      dsimp only
      rw [hcandidates, hnames]
      rfl
    | ok names =>
      have hhere := candidates_eq_ok_iff.1 hnames
      have hthere : IsCandidates t' folder names := candidates_eq_ok_iff.1 (hcandidates.trans hnames)
      rw [schemaFile_of_candidates hnamed hhere, schemaFile_of_candidates hnamed hthere]
      split
      · rfl
      · next husual => rw [hfirst hnamed names hhere husual]

/-- The same files may hold the schema, in whatever order entries are listed. -/
theorem candidates_eq_of_sameEntries (h : t.SameEntries t') (folder : String) :
    candidates t' folder = candidates t folder := by
  have hfile (path : String) : t'.isFile path = t.isFile path := by
    unfold Tree.isFile
    rw [h.find]
  unfold candidates
  obtain ⟨f, hf, hf'⟩ | ⟨listed, listed', hl, hl', hperm⟩ := h.names_cases folder
  · rw [hf, hf']
    rfl
  · rw [hl, hl']
    change Except.ok _ = Except.ok _
    simp only [mergeSort_eq_of_perm hperm, hfile]

/-- The same files may hold the schema, whatever they hold. -/
theorem candidates_eq_of_sameShape (h : t.SameShape t') (folder : String) :
    candidates t' folder = candidates t folder := by
  unfold candidates
  rw [h.names]
  simp only [h.isFile]

/-- Files behind one that mentions the object do not matter to which one is the first to do so. -/
theorem firstMentioning_eq_of_mention {text : String} (hread : t.readText path = .ok text)
    (hmention : object.toList <:+: text.toList)
    (hsame : ∀ other ∈ before ++ [path], t'.readText other = t.readText other) :
    firstMentioning t' object (before ++ path :: after) = firstMentioning t object (before ++ path :: after) := by
  induction before with
  | nil =>
    rw [List.nil_append, firstMentioning_cons hread hmention,
      firstMentioning_cons ((hsame path List.mem_cons_self).trans hread) hmention]
  | cons other before ih =>
    obtain ⟨hother, hbefore⟩ := List.forall_mem_cons.1 hsame
    rw [List.cons_append, firstMentioning, firstMentioning, hother, ih hbefore]

/-- Entries may be listed in any order. -/
theorem schemaFile_eq_of_sameEntries (h : t.SameEntries t') (folder : String) (settings : SchemaSettings) :
    schemaFile t' folder settings = schemaFile t folder settings := by
  -- paths lead to the same, so the same files are read
  have hread : t'.readText = t.readText := by
    funext path
    unfold Tree.readText
    rw [h.find]
  have hfirst (paths : List String) :
      firstMentioning t' settings.object paths = firstMentioning t settings.object paths := by
    induction paths with
    | nil => rfl
    | cons path paths ih => rw [firstMentioning, firstMentioning, hread, ih]
  refine schemaFile_congr (fun path => ?_) (candidates_eq_of_sameEntries h folder) fun _ names _ _ => hfirst _
  unfold Tree.isFile
  rw [h.find]

/-- What files hold does not matter where the settings name the file or one has the usual name. -/
theorem schemaFile_eq_of_unread (h : t.SameShape t')
    (hdecided : settings.file.isSome = true ∨ ∃ names, IsCandidates t folder names ∧ "schema.mjs" ∈ names) :
    schemaFile t' folder settings = schemaFile t folder settings := by
  -- no file is read before the rule that decides
  refine schemaFile_congr h.isFile (candidates_eq_of_sameShape h folder) fun hnone names hnames husual => ?_
  obtain hsome | ⟨names', hnames', husual'⟩ := hdecided
  · rw [hnone] at hsome
    cases hsome
  · rw [hnames'.unique hnames] at husual
    exact absurd husual' husual

/-- What files hold does not matter behind one that mentions the object. -/
theorem schemaFile_eq_of_mention {text : String} (h : t.SameShape t') (hnames : IsCandidates t folder names)
    (hname : name ∈ names) (hread : t.readText (join folder name) = .ok text)
    (hmention : settings.object.toList <:+: text.toList)
    (hsame : ∀ other ∈ names, other ≤ name → t'.readText (join folder other) = t.readText (join folder other)) :
    schemaFile t' folder settings = schemaFile t folder settings := by
  -- reading stops at the file that mentions the object, if not before
  refine schemaFile_congr h.isFile (candidates_eq_of_sameShape h folder) fun _ names' hnames' _ => ?_
  cases hnames.unique hnames'
  obtain ⟨before, after, rfl⟩ := List.append_of_mem hname
  rw [List.map_append, List.map_cons]
  refine firstMentioning_eq_of_mention hread hmention fun path hpath => ?_
  obtain ⟨-, -, hordered⟩ := List.pairwise_append.1 hnames.ordered
  rcases List.mem_append.1 hpath with hpath | hpath
  · obtain ⟨other, hother, rfl⟩ := List.mem_map.1 hpath
    have hlt : other < name := hordered other hother name List.mem_cons_self
    have hle : other ≤ name := String.not_lt.1 fun hgt => String.lt_irrefl other (String.lt_trans hlt hgt)
    exact hsame other (List.mem_append_left _ hother) hle
  · rw [List.mem_singleton.1 hpath]
    exact hsame name hname (String.le_refl name)

/-- **What decides which file holds the schema.** The rules do; entries may be listed in any order; what
files hold does not matter where the settings name the file or one has the usual name; and what they hold
behind one that mentions the object never does. -/
theorem schemaFile_decided (t : Tree) (folder : String) (settings : SchemaSettings) :
    (∀ r, schemaFile t folder settings = r ↔ Selects t folder settings r) ∧
      (∀ t', t.SameEntries t' → schemaFile t' folder settings = schemaFile t folder settings) ∧
      (∀ t', t.SameShape t' →
        (settings.file.isSome = true ∨ ∃ names, IsCandidates t folder names ∧ "schema.mjs" ∈ names) →
        schemaFile t' folder settings = schemaFile t folder settings) ∧
      ∀ t' names name text, t.SameShape t' → IsCandidates t folder names → name ∈ names →
        t.readText (join folder name) = .ok text → settings.object.toList <:+: text.toList →
        (∀ other ∈ names, other ≤ name → t'.readText (join folder other) = t.readText (join folder other)) →
        schemaFile t' folder settings = schemaFile t folder settings :=
  ⟨fun _ => schemaFile_eq_iff, fun _ h => schemaFile_eq_of_sameEntries h folder settings,
    fun _ => schemaFile_eq_of_unread,
    fun _ _ _ _ h hnames hname hread hmention => schemaFile_eq_of_mention h hnames hname hread hmention⟩

/-- A folder with a file that is no text behind one that mentions the object, before another one. -/
def mentioningFolder : Tree :=
  ((Tree.empty.withFile ["env", "c.mjs"] (.bytes [0xFF])).withFile ["env", "b.mjs"]
    (.text "// serverSchema")).withFile ["env", "a.mjs"] (.text "")

private theorem isCandidates_mentioningFolder :
    IsCandidates mentioningFolder "/env" ["a.mjs", "b.mjs", "c.mjs"] where
  ordered := by decide +kernel
  listed := by
    have hall : ∀ name ∈ ["a.mjs", "b.mjs", "c.mjs"], mentioningFolder.isFile (join "/env" name) = true ∧
        Files.extension? name = some "mjs" := by decide +kernel
    refine ⟨["c.mjs", "b.mjs", "a.mjs"], by rfl, fun name => ⟨fun h => ⟨?_, hall name h⟩, fun h => ?_⟩⟩
    · simp only [List.mem_cons, List.not_mem_nil, or_false] at h ⊢
      rcases h with rfl | rfl | rfl <;> simp
    · simp only [List.mem_cons, List.not_mem_nil, or_false] at h ⊢
      rcases h.1 with rfl | rfl | rfl <;> simp

/-- The file that mentions the object is selected, whatever the one behind it holds. -/
theorem schemaFile_decided_mentioning :
    schemaFile mentioningFolder "/env" {} = .ok (join "/env" "b.mjs") ∧
      ∀ content, schemaFile (mentioningFolder.put ["env", "c.mjs"] (.file content)) "/env" {} =
        .ok (join "/env" "b.mjs") := by
  have hnames : IsCandidates mentioningFolder "/env" (["a.mjs"] ++ "b.mjs" :: ["c.mjs"]) :=
    isCandidates_mentioningFolder
  have hfirst : mentioningFolder.readText (join "/env" "a.mjs") = .ok "" :=
    Tree.readText_eq_ok_iff.2 ⟨["env", "a.mjs"], by decide +kernel, by decide +kernel⟩
  have hread : mentioningFolder.readText (join "/env" "b.mjs") = .ok "// serverSchema" :=
    Tree.readText_eq_ok_iff.2 ⟨["env", "b.mjs"], by decide +kernel, by decide +kernel⟩
  have hmention : "serverSchema".toList <:+: "// serverSchema".toList := by decide +kernel
  have hpassed : ∀ other ∈ ["a.mjs"], PassedOver mentioningFolder "serverSchema" (join "/env" other) := by
    intro other hother
    rw [List.mem_singleton.1 hother]
    exact ⟨"", hfirst, by decide +kernel⟩
  obtain ⟨hrules, -, -, hbehind⟩ := schemaFile_decided mentioningFolder "/env" {}
  have hselected : schemaFile mentioningFolder "/env" {} = .ok (join "/env" "b.mjs") :=
    (hrules _).2 (.mentioning rfl hnames (by decide) hpassed hread hmention)
  refine ⟨hselected, fun content => ?_⟩
  have hfile : mentioningFolder.get? ["env", "c.mjs"] = some (.file (.bytes [0xFF])) := by decide +kernel
  have hbut := Tree.SameBut.put hfile content
  rw [← hselected]
  refine hbehind _ _ "b.mjs" _ hbut.shape hnames (by simp) hread hmention fun other hother hle => ?_
  refine hbut.readText ?_
  have haway : ∀ other ∈ ["a.mjs"] ++ "b.mjs" :: ["c.mjs"], other ≤ "b.mjs" →
      mentioningFolder.way (join "/env" other) ≠ .ok ["env", "c.mjs"] := by decide +kernel
  exact haway other hother hle

end EnvSchema.Project
