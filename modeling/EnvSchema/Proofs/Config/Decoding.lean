import EnvSchema.Config.File
import EnvSchema.Proofs.Data.Toml.Documents
import EnvSchema.Proofs.Files.Way

/-!
# Settings that a document names

A document may name some of the settings of a project and leave out others. Each setting that it names
gets its value, whatever else is named and in whatever order, and all others keep their defaults: an
entry of a table gives one setting more and changes none of those that have been given, or it gives none.

* `byKey_of_parts` — a group of settings, of which a table names some;
* `Choice`, `mixed` — the settings of a project one by one, and settings of which some are chosen;
* `Sets` — a document that names the settings that are chosen;
* `decodeProject_of_sets`, `loadProject_mixed` — what is decoded and loaded.
-/

namespace EnvSchema.Config

open Data.Toml (Item Key Setting Span Table)
open Files (Tree join)

variable {item : Item} {place : Span} {s : String} {l : List String}

/-! ### Values -/

theorem text_of_isText (h : item.IsText s) : text place item = .ok s := by
  obtain ⟨span, rfl⟩ := h
  rfl

theorem path_of_isText (h : item.IsText s) : path place item = .ok s := by
  obtain ⟨span, rfl⟩ := h
  rfl

theorem source_of_isText {v : VariableSource} (h : item.IsText (sourceName v)) :
    source place item = .ok v := by
  obtain ⟨span, rfl⟩ := h
  cases v <;> rfl

theorem texts_of_isTexts (h : item.Says (.texts l)) : texts place item = .ok l := by
  obtain ⟨span, items, rfl, hitems⟩ := h
  change items.mapM (text place) = .ok l
  induction hitems with
  | nil => rfl
  | cons hitem _ ih =>
    rw [List.mapM_cons, text_of_isText hitem, ih]
    rfl

/-! ### Groups -/

theorem Field.of_set {σ α : Type} {key : String} {decode : Decode α} {set : σ → α → σ} {a : α}
    (h : decode place item = .ok a) (start : σ) :
    (Field.of key decode set).set start place item = .ok (set start a) := by
  change (do return set start (← decode place item)) = _
  rw [h]
  rfl

/-- What an entry of a table gives to a group. -/
def give {σ : Type} (fields : List (Field σ)) (start : σ) (e : Key × Item) : Except Data.Toml.Complaint σ :=
  match fields.find? fun f => f.key == e.1.name with
  | some f => f.set start e.1.span e.2
  | none => .ok start

theorem byKey_eq {σ : Type} {fields : List (Field σ)} {start : σ} {t : Table} :
    byKey fields start t = t.entries.foldlM (give fields) start :=
  rfl

/-- **The settings that a table names** are the part of a group that is given by its keys, if each of them
gives its own setting, whatever has been given before. -/
theorem byKey_of_parts {σ : Type} (fields : List (Field σ)) (part : (String → Bool) → σ) {t : Table}
    (ht : t.keyNames.Nodup)
    (hset : ∀ f ∈ fields, ∀ item, t.find? f.key = some item → ∀ place given,
      f.set (part given) place item = .ok (part fun name => given name || name == f.key))
    (hpart : ∀ given given', (∀ f ∈ fields, given f.key = given' f.key) → part given = part given') :
    byKey fields (part fun _ => false) t = .ok (part fun name => (t.find? name).isSome) := by
  -- the induction is on the entries that are left, whatever has been given by those before
  have hrun (es : List (Key × Item)) (hes : ∀ e ∈ es, t.find? e.1.name = some e.2)
      (given : String → Bool) :
      es.foldlM (give fields) (part given) =
        .ok (part fun name => given name || es.any fun e => e.1.name == name) := by
    induction es generalizing given with
    | nil => simp [pure, Except.pure]
    | cons e es ih =>
      obtain ⟨he, hes⟩ := List.forall_mem_cons.1 hes
      rw [List.foldlM_cons, give]
      split
      · next f hf =>
        have hkey : f.key = e.1.name := by simpa using List.find?_some hf
        rw [hset f (List.mem_of_find?_eq_some hf) e.2 (hkey ▸ he)]
        refine (ih hes _).trans (congrArg (fun given => Except.ok (part given)) (funext fun name => ?_))
        rw [List.any_cons, Bool.or_assoc, hkey, Bool.beq_comm]
      · next hnone =>
        refine (ih hes given).trans (congrArg Except.ok (hpart _ _ fun f hf => ?_))
        -- an entry that no setting has gives nothing
        have hne : (e.1.name == f.key) = false := by
          rw [Bool.beq_comm]
          simpa using List.find?_eq_none.1 hnone f hf
        rw [List.any_cons, hne, Bool.false_or]
  rw [byKey_eq, hrun _ fun e he => Table.find?_of_mem ht he]
  refine congrArg (fun given => Except.ok (part given)) (funext fun name => ?_)
  rw [Bool.eq_iff_iff]
  simp [Table.find?]

/-! ### Settings one by one -/

/-- **One of the settings** of a project. -/
inductive Choice where
  | envFolder | file | object | library | space | source | ignore | folder | exclude
  deriving DecidableEq, Repr

namespace Choice

/-- The key of its group. -/
def group : Choice → String
  | envFolder | file | object | library | space => "schema"
  | source | ignore => "env"
  | folder | exclude => "scan"

/-- Its key in the group. -/
def key : Choice → String
  | envFolder => "env_dir"
  | file => "schema_file"
  | object => "server_schema"
  | library => "library"
  | space => "namespace"
  | source => "source"
  | ignore => "ignore"
  | folder => "source_dir"
  | exclude => "exclude"

/-- **What a document says for its value** in some settings. The schema's file may have none. -/
def setting? (p : ProjectSettings) : Choice → Option Setting
  | envFolder => some (.text p.schema.envFolder)
  | file => p.schema.file.map .text
  | object => some (.text p.schema.object)
  | library => some (.text p.schema.library)
  | space => some (.text p.schema.space)
  | source => some (.text (sourceName p.environment.source))
  | ignore => some (.texts p.environment.ignore)
  | folder => some (.text p.scan.folder)
  | exclude => some (.texts p.scan.exclude)

end Choice

/-- A value if it is chosen, or else another one. -/
def pick {α : Type} (isChosen : Bool) (own other : α) : α := if isChosen then own else other

@[simp] theorem pick_true {α : Type} (own other : α) : pick true own other = own := rfl

@[simp] theorem pick_false {α : Type} (own other : α) : pick false own other = other := rfl

/-- **Settings of which some are chosen**: these are as in some settings, and all others are as by
default. -/
def mixed (p : ProjectSettings) (chosen : Choice → Bool) : ProjectSettings :=
  let d : ProjectSettings := {}
  { schema :=
      { envFolder := pick (chosen .envFolder) p.schema.envFolder d.schema.envFolder
        file := pick (chosen .file) p.schema.file d.schema.file
        object := pick (chosen .object) p.schema.object d.schema.object
        library := pick (chosen .library) p.schema.library d.schema.library
        space := pick (chosen .space) p.schema.space d.schema.space }
    environment :=
      { source := pick (chosen .source) p.environment.source d.environment.source
        ignore := pick (chosen .ignore) p.environment.ignore d.environment.ignore }
    scan :=
      { folder := pick (chosen .folder) p.scan.folder d.scan.folder
        exclude := pick (chosen .exclude) p.scan.exclude d.scan.exclude } }

/-- The value that a document gives to a setting. -/
def settingAt? (t : Table) (choice : Choice) : Option Item :=
  match t.find? choice.group with
  | some (.table g) => Table.find? g choice.key
  | _ => none

/-- **A document names the settings that are chosen**, with the values that they have in some settings,
and none of the others. The groups that it has are tables. What else stands in it does not matter. -/
structure Sets (t : Table) (p : ProjectSettings) (chosen : Choice → Bool) : Prop where
  tables : ∀ choice item, t.find? (Choice.group choice) = some item → ∃ g : Table, item = .table g
  named : ∀ choice, chosen choice = true → ∃ item setting, settingAt? t choice = some item ∧
    choice.setting? p = some setting ∧ item.Says setting
  others : ∀ choice, chosen choice = false → settingAt? t choice = none

namespace Sets

variable {t : Table} {g : Data.Toml.Table} {p : ProjectSettings} {chosen : Choice → Bool}

theorem isSome_eq (h : Sets t p chosen) (choice : Choice) : (settingAt? t choice).isSome = chosen choice := by
  cases hchosen : chosen choice with
  | true =>
    obtain ⟨item, -, hitem, -⟩ := h.named choice hchosen
    rw [hitem, Option.isSome_some]
  | false => rw [h.others choice hchosen, Option.isSome_none]

/-- What is named in a table of the document is chosen. -/
theorem said (h : Sets t p chosen) (choice : Choice) (hg : t.find? choice.group = some (.table g))
    {item : Item} (hitem : g.find? choice.key = some item) :
    ∃ setting, choice.setting? p = some setting ∧ item.Says setting := by
  have hat : settingAt? t choice = some item := by
    rw [settingAt?, hg]
    exact hitem
  have hchosen : chosen choice = true := by rw [← h.isSome_eq, hat, Option.isSome_some]
  obtain ⟨item', setting, hitem', hsetting, hsaid⟩ := h.named choice hchosen
  cases hat.symm.trans hitem'
  exact ⟨setting, hsetting, hsaid⟩

theorem isSome_find? (h : Sets t p chosen) (choice : Choice) (hg : t.find? choice.group = some (.table g)) :
    (g.find? choice.key).isSome = chosen choice := by
  rw [← h.isSome_eq, settingAt?, hg]

theorem not_chosen (h : Sets t p chosen) (choice : Choice) (hg : t.find? choice.group = none) :
    chosen choice = false := by
  rw [← h.isSome_eq, settingAt?, hg, Option.isSome_none]

/-! #### Groups -/

theorem schema (h : Sets t p chosen) (hg : t.find? "schema" = some (.table g)) (hkeys : g.keyNames.Nodup) :
    byKey schemaFields {} g = .ok (mixed p chosen).schema := by
  -- the group is read as one whose fields are the chosen ones wherever their keys are given
  have hrun := byKey_of_parts schemaFields
    (fun given => (mixed p fun choice => given choice.key).schema) hkeys ?_ ?_
  · refine hrun.trans (congrArg Except.ok ?_)
    simp only [mixed, h.isSome_find? .envFolder hg, h.isSome_find? .file hg,
      h.isSome_find? .object hg, h.isSome_find? .library hg,
      h.isSome_find? .space hg]
  · -- a field that is given says what was chosen, each in its own form
    intro f hf item hitem place given
    simp only [schemaFields, List.mem_cons, List.not_mem_nil, or_false] at hf
    rcases hf with rfl | rfl | rfl | rfl | rfl
    · obtain ⟨_, ⟨⟩, hsaid⟩ := h.said .envFolder hg hitem
      rw [Field.of_set (path_of_isText hsaid)]
      simp [mixed, Field.of, Choice.key]
    · obtain ⟨_, hfile, hsaid⟩ := h.said .file hg hitem
      obtain ⟨file, hsome, rfl⟩ := Option.map_eq_some_iff.1 hfile
      rw [Field.of_set (text_of_isText hsaid)]
      simp [mixed, Field.of, Choice.key, hsome]
    · obtain ⟨_, ⟨⟩, hsaid⟩ := h.said .object hg hitem
      rw [Field.of_set (text_of_isText hsaid)]
      simp [mixed, Field.of, Choice.key]
    · obtain ⟨_, ⟨⟩, hsaid⟩ := h.said .library hg hitem
      rw [Field.of_set (text_of_isText hsaid)]
      simp [mixed, Field.of, Choice.key]
    · obtain ⟨_, ⟨⟩, hsaid⟩ := h.said .space hg hitem
      rw [Field.of_set (text_of_isText hsaid)]
      simp [mixed, Field.of, Choice.key]
  · -- which of the keys are given decides all there is
    intro given given' hsame
    simp only [schemaFields, List.forall_mem_cons, Field.of] at hsame
    simp only [mixed, Choice.key, hsame]

theorem environment (h : Sets t p chosen) (hg : t.find? "env" = some (.table g)) (hkeys : g.keyNames.Nodup) :
    byKey environmentFields {} g = .ok (mixed p chosen).environment := by
  -- as for the group of the schema: a form for each field, and the keys that are given decide
  have hrun := byKey_of_parts environmentFields
    (fun given => (mixed p fun choice => given choice.key).environment) hkeys ?_ ?_
  · refine hrun.trans (congrArg Except.ok ?_)
    simp only [mixed, h.isSome_find? .source hg, h.isSome_find? .ignore hg]
  · intro f hf item hitem place given
    simp only [environmentFields, List.mem_cons, List.not_mem_nil, or_false] at hf
    rcases hf with rfl | rfl
    · obtain ⟨_, ⟨⟩, hsaid⟩ := h.said .source hg hitem
      rw [Field.of_set (source_of_isText hsaid)]
      simp [mixed, Field.of, Choice.key]
    · obtain ⟨_, ⟨⟩, hsaid⟩ := h.said .ignore hg hitem
      rw [Field.of_set (texts_of_isTexts hsaid)]
      simp [mixed, Field.of, Choice.key]
  · intro given given' hsame
    simp only [environmentFields, List.forall_mem_cons, Field.of] at hsame
    simp only [mixed, Choice.key, hsame]

theorem scan (h : Sets t p chosen) (hg : t.find? "scan" = some (.table g)) (hkeys : g.keyNames.Nodup) :
    byKey scanFields {} g = .ok (mixed p chosen).scan := by
  have hrun := byKey_of_parts scanFields
    (fun given => (mixed p fun choice => given choice.key).scan) hkeys ?_ ?_
  · refine hrun.trans (congrArg Except.ok ?_)
    simp only [mixed, h.isSome_find? .folder hg, h.isSome_find? .exclude hg]
  · intro f hf item hitem place given
    simp only [scanFields, List.mem_cons, List.not_mem_nil, or_false] at hf
    rcases hf with rfl | rfl
    · obtain ⟨_, ⟨⟩, hsaid⟩ := h.said .folder hg hitem
      rw [Field.of_set (path_of_isText hsaid)]
      simp [mixed, Field.of, Choice.key]
    · obtain ⟨_, ⟨⟩, hsaid⟩ := h.said .exclude hg hitem
      rw [Field.of_set (texts_of_isTexts hsaid)]
      simp [mixed, Field.of, Choice.key]
  · intro given given' hsame
    simp only [scanFields, List.forall_mem_cons, Field.of] at hsame
    simp only [mixed, Choice.key, hsame]

/-- A group that is not there has nothing but defaults. -/
theorem pick_schema (h : Sets t p chosen) :
    pick (t.find? "schema").isSome (mixed p chosen).schema {} = (mixed p chosen).schema := by
  cases hg : t.find? "schema" with
  | some item => rfl
  | none =>
    simp [mixed, h.not_chosen .envFolder hg, h.not_chosen .file hg,
      h.not_chosen .object hg, h.not_chosen .library hg,
      h.not_chosen .space hg]

theorem pick_environment (h : Sets t p chosen) :
    pick (t.find? "env").isSome (mixed p chosen).environment {} = (mixed p chosen).environment := by
  cases hg : t.find? "env" with
  | some item => rfl
  | none => simp [mixed, h.not_chosen .source hg, h.not_chosen .ignore hg]

theorem pick_scan (h : Sets t p chosen) :
    pick (t.find? "scan").isSome (mixed p chosen).scan {} = (mixed p chosen).scan := by
  cases hg : t.find? "scan" with
  | some item => rfl
  | none => simp [mixed, h.not_chosen .folder hg, h.not_chosen .exclude hg]

/-- **All settings that a document names.** -/
theorem project (h : Sets t p chosen) (ht : t.Distinct) :
    byKey projectFields {} t = .ok (mixed p chosen) := by
  have hrun := byKey_of_parts projectFields
    (fun given =>
      { schema := pick (given "schema") (mixed p chosen).schema {}
        environment := pick (given "env") (mixed p chosen).environment {}
        scan := pick (given "scan") (mixed p chosen).scan {} }) (Table.distinct_iff.1 ht).1 ?_ ?_
  · refine hrun.trans (congrArg Except.ok ?_)
    rw [h.pick_schema, h.pick_environment, h.pick_scan]
  · -- a group that is given is a table, and the readers above say what it is read as
    intro f hf item hitem place given
    simp only [projectFields, List.mem_cons, List.not_mem_nil, or_false] at hf
    rcases hf with rfl | rfl | rfl
    · obtain ⟨g, rfl⟩ := h.tables .envFolder item hitem
      have hgroup : group "SchemaConfig" schemaFields {} place (.table g) = .ok (mixed p chosen).schema :=
        h.schema hitem (Table.distinct_iff.1 (ht.find? hitem)).1
      rw [Field.of_set hgroup]
      simp [Field.of]
    · obtain ⟨g, rfl⟩ := h.tables .source item hitem
      have hgroup : group "EnvConfig" environmentFields {} place (.table g) =
          .ok (mixed p chosen).environment :=
        h.environment hitem (Table.distinct_iff.1 (ht.find? hitem)).1
      rw [Field.of_set hgroup]
      simp [Field.of]
    · obtain ⟨g, rfl⟩ := h.tables .folder item hitem
      have hgroup : group "ProjectScanConfig" scanFields {} place (.table g) = .ok (mixed p chosen).scan :=
        h.scan hitem (Table.distinct_iff.1 (ht.find? hitem)).1
      rw [Field.of_set hgroup]
      simp [Field.of]
  · intro given given' hsame
    simp only [projectFields, List.forall_mem_cons, Field.of] at hsame
    simp only [hsame]

end Sets

/-! ### Documents -/

variable {t : Table} {p : ProjectSettings} {chosen : Choice → Bool} {source folder : String}
  {tree : Tree}

theorem decodeProject_of_sets (hparse : Data.Toml.parse source = .ok t) (h : Sets t p chosen) :
    decodeProject source = .ok (mixed p chosen) := by
  rw [decodeProject, hparse]
  exact h.project (Data.Toml.parse_distinct hparse)

theorem loadProject_of_readText (hread : tree.readText (join folder fileName) = .ok source) :
    loadProject tree folder =
      (do return some (← (decodeProject source).mapError (Failure.settings source))) := by
  obtain ⟨w, hw, -⟩ := Tree.readText_eq_ok_iff.1 hread
  rw [loadProject, if_pos (Tree.exists?_of_way hw), hread]
  rfl

/-- What a document names is loaded from the file that holds it. -/
theorem loadProject_of_sets (hread : tree.readText (join folder fileName) = .ok source)
    (hparse : Data.Toml.parse source = .ok t) (h : Sets t p chosen) :
    loadProject tree folder = .ok (some (mixed p chosen)) := by
  rw [loadProject_of_readText hread, decodeProject_of_sets hparse h]
  rfl

/-! ### Documents that have been written -/

/-- What has been written for a setting in some tables. -/
def written (tables : List (String × List (String × Setting))) (choice : Choice) : Option Setting :=
  (tables.lookup choice.group).bind fun settings => settings.lookup choice.key

/-- **A document in which some settings have been written** names these settings. -/
theorem sets_of_holdsAll {tables : List (String × List (String × Setting))} (ht : t.HoldsAll tables)
    (hwritten : ∀ choice, written tables choice = if chosen choice then choice.setting? p else none)
    (hsome : ∀ choice, chosen choice = true → (choice.setting? p).isSome) : Sets t p chosen := by
  -- at the place of a setting the document says what has been written for it
  have hrel (choice : Choice) : Option.Rel Item.Says (settingAt? t choice) (written tables choice) := by
    have hgroup := ht.find? choice.group
    rw [settingAt?, written]
    generalize t.find? choice.group = group at hgroup ⊢
    generalize tables.lookup choice.group = settings at hgroup ⊢
    cases hgroup with
    | none => exact .none
    | some hgroup =>
      obtain ⟨g, rfl, hg⟩ := hgroup
      exact hg.find? choice.key
  refine ⟨fun choice item hitem => ?_, fun choice hchosen => ?_, fun choice hchosen => ?_⟩
  · have hgroup := ht.find? choice.group
    rw [hitem] at hgroup
    generalize tables.lookup choice.group = settings at hgroup
    cases hgroup with
    | some hgroup => exact hgroup.imp fun g hg => hg.1
  · have hone := hrel choice
    obtain ⟨setting, hsetting⟩ := Option.isSome_iff_exists.1 (hsome choice hchosen)
    rw [hwritten, if_pos hchosen, hsetting] at hone
    generalize settingAt? t choice = item at hone ⊢
    cases hone with
    | some hsaid => exact ⟨_, setting, rfl, hsetting, hsaid⟩
  · have hone := hrel choice
    rw [hwritten, if_neg (by simp [hchosen])] at hone
    generalize settingAt? t choice = item at hone ⊢
    cases hone with
    | none => rfl

theorem decodeProject_written {tables : List (String × List (String × Setting))}
    (h : Data.Toml.Writable tables)
    (hwritten : ∀ choice, written tables choice = if chosen choice then choice.setting? p else none)
    (hsome : ∀ choice, chosen choice = true → (choice.setting? p).isSome) :
    decodeProject (Data.Toml.documentText tables) = .ok (mixed p chosen) := by
  obtain ⟨t, hparse, ht⟩ := Data.Toml.parse_documentText h
  exact decodeProject_of_sets hparse (sets_of_holdsAll ht hwritten hsome)

/-- **Each setting is for itself**: it is as in the given settings if it is chosen, and as by default if it
is not, whatever the others are. -/
theorem setting?_mixed (p : ProjectSettings) (chosen : Choice → Bool) (choice : Choice) :
    choice.setting? (mixed p chosen) = if chosen choice then choice.setting? p else choice.setting? {} := by
  cases choice <;> cases h : chosen _ <;> simp [Choice.setting?, mixed, h]

/-- **What is loaded of a document that names some settings**: these have the values that it gives them,
and all others have their defaults. The order of the groups and of the settings makes no difference, nor
do groups that are not there and whatever else stands in the document.
Documents in which such settings have been written can be read, in whatever order they have been
written and with whatever else. -/
theorem loadProject_mixed (tree : Tree) (folder : String) (p : ProjectSettings) (chosen : Choice → Bool) :
    (∀ choice, choice.setting? (mixed p chosen) =
      if chosen choice then choice.setting? p else choice.setting? {}) ∧
    (∀ source t, tree.readText (join folder fileName) = .ok source → Data.Toml.parse source = .ok t →
      Sets t p chosen → loadProject tree folder = .ok (some (mixed p chosen))) ∧
    ∀ tables, Data.Toml.Writable tables →
      (∀ choice, written tables choice = if chosen choice then choice.setting? p else none) →
      (∀ choice, chosen choice = true → (choice.setting? p).isSome) →
      tree.readText (join folder fileName) = .ok (Data.Toml.documentText tables) →
      loadProject tree folder = .ok (some (mixed p chosen)) := by
  refine ⟨setting?_mixed p chosen, fun source t hread hparse h => loadProject_of_sets hread hparse h, ?_⟩
  intro tables htables hwritten hsome hread
  rw [loadProject_of_readText hread, decodeProject_written htables hwritten hsome]
  rfl

/-- Tables with two settings of a project, with a key beside one of them that no setting has, and with a
table that no group has. -/
def looseTables : List (String × List (String × Setting)) :=
  [ ("scan", [("exclude", .texts ["dist", "out"]), ("depth", .text "3")]), ("other", [])
  , ("env", [("source", .text "dotenv")]) ]

/-- These tables as they are written. -/
def looseText : String :=
  "[scan]\nexclude = [\n    \"dist\",\n    \"out\",\n]\ndepth = \"3\"\n\n" ++
    "[other]\n\n[env]\nsource = \"dotenv\"\n"

/-- What they say is loaded, and nothing else. -/
theorem loadProject_mixed_loose :
    loadProject (Tree.empty.withFile ["app", ".envcheck.toml"] (.text looseText)) "/app" =
      .ok (some { environment := { source := .files }, scan := { exclude := ["dist", "out"] } }) := by
  have htext : Data.Toml.documentText looseTables = looseText := by decide +kernel
  have hwritable : Data.Toml.Writable looseTables := ⟨by decide, by decide, by decide, by decide⟩
  obtain ⟨t, hparse, ht⟩ := Data.Toml.parse_documentText hwritable
  rw [htext] at hparse
  have hsets : Sets t { environment := { source := .files }, scan := { exclude := ["dist", "out"] } }
      fun choice => choice = .source || choice = .exclude := by
    refine sets_of_holdsAll ht ?_ ?_ <;> rintro ⟨⟩ <;> decide
  have hread : (Tree.empty.withFile ["app", ".envcheck.toml"] (.text looseText)).readText
      (join "/app" fileName) = .ok looseText :=
    Tree.readText_eq_ok_iff.2 ⟨["app", ".envcheck.toml"], by decide +kernel, by decide +kernel⟩
  exact (loadProject_mixed _ "/app" _ _).2.1 looseText t hread hparse hsets

end EnvSchema.Config
