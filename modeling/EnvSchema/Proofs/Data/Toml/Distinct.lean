import EnvSchema.Data.Toml.Reader.Document
import EnvSchema.Proofs.Steps
import Mathlib.Data.List.Nodup

/-!
# No key has two values

Whatever a document says, none of its tables has two values for one key, and neither has any table that
stands in another one. A draft never gets a second value for a key, so this is shown of the tables that
are made, and then of whatever readers yield that make them.

* `Item.Distinct` — no key has two values, in any table of a value;
* `Table.within_distinct`, `Draft.field_distinct`, `Draft.header_distinct`, … — what is made line by line;
* `Read.Yields` — a condition on what readers yield;
* `parse_distinct` — documents.
-/

namespace EnvSchema.Data.Toml

/-! ### Tables -/

/-- The names of the keys of a table. -/
def Table.keyNames (t : Table) : List String := t.entries.map (·.1.name)

/-- **No key has two values**, in any table of a value. -/
inductive Item.Distinct : Item → Prop
  | text {span s} : Distinct (.text span s)
  | whole {span n} : Distinct (.whole span n)
  | real {span x} : Distinct (.real span x)
  | switch {span b} : Distinct (.switch span b)
  | moment {span} : Distinct (.moment span)
  | list {span items} (all : ∀ item ∈ items, Distinct item) : Distinct (.list span items)
  | table {t : Table} (keys : t.keyNames.Nodup) (all : ∀ e ∈ t.entries, Distinct e.2) : Distinct (.table t)
  | tables {ts : List Table} (all : ∀ t ∈ ts, Distinct (.table t)) : Distinct (.tables ts)

/-- No key of a table has two values, nor has one in a table that stands in it. -/
abbrev Table.Distinct (t : Table) : Prop := (Item.table t).Distinct

namespace Table

variable {t : Table} {name : String} {key : Key} {value : Item}

theorem distinct_iff : t.Distinct ↔ t.keyNames.Nodup ∧ ∀ e ∈ t.entries, e.2.Distinct := by
  constructor
  · rintro ⟨⟩
    exact ⟨‹_›, ‹_›⟩
  · rintro ⟨hkeys, hall⟩
    exact .table hkeys hall

/-- The form and the place of a table do not matter. -/
theorem Distinct.of_entries {t' : Table} (h : t.Distinct) (he : t'.entries = t.entries) : t'.Distinct := by
  obtain ⟨hkeys, hall⟩ := distinct_iff.1 h
  refine distinct_iff.2 ⟨?_, he ▸ hall⟩
  rw [keyNames, he]
  exact hkeys

theorem distinct_nil {form : TableForm} {span : Option Span} :
    Table.Distinct { form := form, span := span } :=
  .table .nil nofun

/-- What is made of a list without repetition does not have the same before one of its items. -/
theorem not_mem_map_before {α β : Type} {f : α → β} {a : α} {before behind : List α}
    (h : ((before ++ a :: behind).map f).Nodup) : f a ∉ before.map f := by
  rw [List.map_append, List.map_cons, List.nodup_middle, List.nodup_cons] at h
  exact fun hmem => h.1 (List.mem_append_left _ hmem)

theorem find?_isSome_iff : (t.find? name).isSome ↔ name ∈ t.keyNames := by
  simp [find?, keyNames]

theorem find?_eq_none_iff : t.find? name = none ↔ name ∉ t.keyNames := by
  rw [← find?_isSome_iff, Option.not_isSome_iff_eq_none]

theorem Distinct.find? (h : t.Distinct) (hv : t.find? name = some value) : value.Distinct := by
  obtain ⟨e, he, rfl⟩ := Option.map_eq_some_iff.1 hv
  exact (distinct_iff.1 h).2 e (List.mem_of_find?_eq_some he)

/-- A key that has one value has the one that is given to it. -/
theorem find?_of_mem {e : Key × Item} (h : t.keyNames.Nodup) (he : e ∈ t.entries) :
    t.find? e.1.name = some e.2 := by
  obtain ⟨before, behind, hentries⟩ := List.append_of_mem he
  rw [keyNames, hentries] at h
  have hbefore : ∀ e' ∈ before, (e'.1.name == e.1.name) = false := by
    intro e' he'
    have hmem : e'.1.name ∈ before.map (·.1.name) := List.mem_map_of_mem he'
    simp only [beq_eq_false_iff_ne]
    intro heq
    exact not_mem_map_before h (heq ▸ hmem)
  rw [find?, hentries, List.find?_append, List.find?_eq_none.2 fun e' he' => by simp [hbefore e' he']]
  simp

/-- A key that is there keeps its name. -/
theorem keyNames_insert : (t.insert key value).keyNames =
    if key.name ∈ t.keyNames then t.keyNames else t.keyNames ++ [key.name] := by
  rw [insert]
  simp only [find?_isSome_iff]
  split
  · rw [keyNames, List.map_map]
    refine List.map_congr_left fun e _ => ?_
    dsimp only [Function.comp_apply]
    split <;> rfl
  · simp [keyNames]

/-- A key that is not there comes last. -/
theorem entries_insert (h : key.name ∉ t.keyNames) :
    (t.insert key value).entries = t.entries ++ [(key, value)] := by
  rw [insert, find?_eq_none_iff.2 h]
  rfl

theorem mem_entries_insert {e : Key × Item} (h : e ∈ (t.insert key value).entries) :
    e.2 = value ∨ e ∈ t.entries := by
  rw [insert] at h
  split at h
  · obtain ⟨e', he', rfl⟩ := List.mem_map.1 h
    split
    · exact .inl rfl
    · exact .inr he'
  · rcases List.mem_append.1 h with h | h
    · exact .inr h
    · exact .inl (List.mem_singleton.1 h ▸ rfl)

theorem Distinct.insert (h : t.Distinct) (hv : value.Distinct) : (t.insert key value).Distinct := by
  obtain ⟨hkeys, hall⟩ := distinct_iff.1 h
  refine distinct_iff.2 ⟨?_, fun e he => ?_⟩
  · rw [keyNames_insert]
    split
    · exact hkeys
    · next hnew => exact List.concat_eq_append ▸ hkeys.concat hnew
  · rcases mem_entries_insert he with he | he
    · exact he ▸ hv
    · exact hall e he

theorem Distinct.erase (h : t.Distinct) : (t.erase name).Distinct := by
  obtain ⟨hkeys, hall⟩ := distinct_iff.1 h
  have hsub : (t.erase name).entries.Sublist t.entries := List.filter_sublist
  exact distinct_iff.2 ⟨hkeys.sublist (hsub.map _), fun e he => hall e (hsub.mem he)⟩

theorem getLastD_distinct {ts : List Table} (h : (Item.tables ts).Distinct) :
    (ts.getLastD default).Distinct := by
  cases h with
  | tables all =>
    rw [List.getLastD_eq_getLast?]
    cases hlast : ts.getLast? with
    | none => exact distinct_nil
    | some t => exact all t (List.mem_of_getLast? hlast)

/-- **What is done to the table at the end of a path** leaves no key with two values if it does so
there. -/
theorem within_distinct {β : Type} {w : Way} {act : Table → Except Cause (β × Table)} {P : β → Prop}
    (hact : ∀ {t b t'}, t.Distinct → act t = .ok (b, t') → P b ∧ t'.Distinct) {path : List Key}
    {before : List String} {b : β} {t' : Table} (ht : t.Distinct)
    (h : Table.within w act before path t = .ok (b, t')) : P b ∧ t'.Distinct := by
  -- one case for each thing that a key may lead to: nothing yet, a table, or the last of several tables
  induction path generalizing before t b t' with
  | nil => exact hact ht h
  | cons k ks ih =>
    rw [within] at h
    dsimp only at h
    split at h
    · obtain ⟨⟨b, inner⟩, hinner, h⟩ := except_bind_eq_ok_iff.1 h
      cases h
      obtain ⟨hb, hinner⟩ := ih distinct_nil hinner
      exact ⟨hb, ht.insert hinner⟩
    · next inner hfind =>
      obtain ⟨-, -, h⟩ := except_bind_eq_ok_iff.1 h
      obtain ⟨⟨b, inner⟩, hinner, h⟩ := except_bind_eq_ok_iff.1 h
      cases h
      obtain ⟨hb, hinner⟩ := ih (ht.find? hfind) hinner
      exact ⟨hb, ht.insert hinner⟩
    · next ts hfind =>
      obtain ⟨⟨b, last⟩, hlast, h⟩ := except_bind_eq_ok_iff.1 h
      cases h
      have hts := ht.find? hfind
      obtain ⟨hb, hlast⟩ := ih (getLastD_distinct hts) hlast
      refine ⟨hb, ht.insert (.tables fun t hmem => ?_)⟩
      rcases List.mem_append.1 hmem with hmem | hmem
      · cases hts with
        | tables all => exact all t (List.dropLast_subset _ hmem)
      · exact List.mem_singleton.1 hmem ▸ hlast
    · cases h

theorem change_distinct {w : Way} {change : Table → Except Cause Table} {path : List Key} {t' : Table}
    (hchange : ∀ {t t'}, t.Distinct → change t = .ok t' → t'.Distinct) (ht : t.Distinct)
    (h : Table.change w change path t = .ok t') : t'.Distinct := by
  obtain ⟨⟨⟨⟩, t''⟩, hwithin, h⟩ := except_bind_eq_ok_iff.1 h
  cases h
  refine (within_distinct (P := fun _ => True) ?_ ht hwithin).2
  intro t b t' ht hact
  obtain ⟨t'', hchanged, hact⟩ := except_bind_eq_ok_iff.1 hact
  cases hact
  exact ⟨trivial, hchange ht hchanged⟩

theorem add_distinct {isDotted : Bool} {table : Option (List String)} {t' : Table} (hv : value.Distinct)
    (ht : t.Distinct) (h : Table.add isDotted table key value t = .ok t') : t'.Distinct := by
  rw [add] at h
  split at h
  · cases h
  split at h
  · cases h
  · cases h
    exact ht.insert hv

/-- **A table in braces.** -/
theorem ofFields_distinct {fields : List Field} (hfields : ∀ f ∈ fields, f.value.Distinct)
    (h : Table.ofFields fields = .ok t) : t.Distinct := by
  -- what holds of the table that the fields are put into, they keep one after the other
  have hrun : ∀ {fs : List Field} {start t : Table}, (∀ f ∈ fs, f.value.Distinct) → start.Distinct →
      fs.foldlM (fun t f => Table.change .inBraces
        (Table.add (!f.path.isEmpty) none f.key f.value) f.path t) start = .ok t → t.Distinct := by
    intro fs
    induction fs with
    | nil =>
      intro start t _ hstart h
      cases h
      exact hstart
    | cons f fs ih =>
      intro start t hfs hstart h
      rw [List.foldlM_cons] at h
      obtain ⟨next, hnext, h⟩ := except_bind_eq_ok_iff.1 h
      obtain ⟨hf, hfs⟩ := List.forall_mem_cons.1 hfs
      exact ih hfs (change_distinct (add_distinct hf) hstart hnext) h
  exact hrun hfields distinct_nil h

end Table

/-! ### Drafts -/

namespace Draft

variable {d d' : Draft} {parents : List Key} {key : Key} {span : Span}

/-- **No key has two values** in the tables that are done, nor in the one that was started last. -/
structure Distinct (d : Draft) : Prop where
  root : d.root.Distinct
  current : d.current.Distinct

theorem field_distinct {f : Field} (hd : d.Distinct) (hf : f.value.Distinct) (h : d.field f = .ok d') :
    d'.Distinct := by
  obtain ⟨current, hcurrent, h⟩ := except_bind_eq_ok_iff.1 h
  cases h
  refine ⟨hd.root, Table.change_distinct (Table.add_distinct hf) ?_ hcurrent⟩
  exact hd.current.of_entries rfl

theorem close_distinct {t : Table} (hd : d.Distinct) (h : d.close = .ok t) : t.Distinct := by
  rw [close] at h
  split at h
  · cases h
    exact hd.current
  · -- the table that is closed goes behind those of its name, if there are some, and else into its place
    refine Table.change_distinct ?_ hd.root h
    intro t t' ht h
    split at h
    · next ts _ hfind =>
      cases h
      refine ht.insert (.tables fun t hmem => ?_)
      rcases List.mem_append.1 hmem with hmem | hmem
      · cases ht.find? hfind with
        | tables all => exact all t hmem
      · exact List.mem_singleton.1 hmem ▸ hd.current
    · cases h
      exact ht.insert (.tables fun t hmem => List.mem_singleton.1 hmem ▸ hd.current)
    · cases h
      exact ht.insert hd.current

theorem header_distinct (hd : d.Distinct) (h : d.header parents key span = .ok d') : d'.Distinct := by
  obtain ⟨t, hclose, h⟩ := except_bind_eq_ok_iff.1 h
  obtain ⟨⟨current, root⟩, hwithin, h⟩ := except_bind_eq_ok_iff.1 h
  cases h
  have hparts := Table.within_distinct (P := Table.Distinct) ?_ (close_distinct hd hclose) hwithin
  · exact ⟨hparts.2, hparts.1.of_entries rfl⟩
  -- the table of a new header is empty, or one that other headers have made on the way to theirs
  intro t current t' ht h
  split at h
  · cases h
    exact ⟨Table.distinct_nil, ht⟩
  · next inner hfind =>
    split at h
    · cases h
      exact ⟨ht.find? hfind, ht.erase⟩
    · cases h
  · cases h

theorem elementHeader_distinct (hd : d.Distinct) (h : d.elementHeader parents key span = .ok d') :
    d'.Distinct := by
  obtain ⟨t, hclose, h⟩ := except_bind_eq_ok_iff.1 h
  obtain ⟨root, hroot, h⟩ := except_bind_eq_ok_iff.1 h
  cases h
  refine ⟨Table.change_distinct ?_ (close_distinct hd hclose) hroot, Table.distinct_nil⟩
  intro t t' ht h
  split at h
  · cases h
    exact ht.insert (.tables nofun)
  · cases h
    exact ht
  · cases h

end Draft

/-! ### What readers yield -/

namespace Read

variable {α β : Type} {read : Read α} {next : α → Read β} {P : α → Prop} {Q : β → Prop}

/-- **Whatever a reader yields** is as a condition says. -/
def Yields (read : Read α) (P : α → Prop) : Prop := ∀ cs a rest, read cs = .ok (a, rest) → P a

namespace Yields

theorem pure {a : α} (h : P a) : Yields (pure a) P := by
  intro cs b rest hb
  cases hb
  exact h

/-- A condition that is met anyway. -/
theorem trivial : Yields read fun _ => True := fun _ _ _ _ => True.intro

theorem bind (h : Yields read P) (hn : ∀ a, P a → Yields (next a) Q) : Yields (read >>= next) Q := by
  intro cs b rest hb
  obtain ⟨⟨a, mid⟩, ha, hb⟩ := except_bind_eq_ok_iff.1 hb
  exact hn a (h cs a mid ha) mid b rest hb

/-- A reader is followed by the next one, whatever it yields. -/
theorem after (hn : ∀ a, Yields (next a) Q) : Yields (read >>= next) Q := bind trivial fun a _ => hn a

theorem stop : Yields (stop : Read α) P := nofun

theorem saying {change : Stop → Stop} (h : Yields read P) : Yields (saying change read) P := by
  intro cs a rest ha
  rw [Read.saying] at ha
  split at ha
  · next hr => exact h cs a rest (hr.trans ha)
  · cases ha

theorem certain (h : Yields read P) : Yields (certain read) P := saying h

theorem called {label : Label} (h : Yields read P) : Yields (called label read) P := saying h

theorem wanting {expected : List Expected} (h : Yields read P) : Yields (wanting expected read) P := saying h

theorem checked {check : α → Except Cause β} (h : Yields read P)
    (hcheck : ∀ a b, P a → check a = .ok b → Q b) : Yields (checked check read) Q := by
  intro cs b rest hb
  rw [Read.checked] at hb
  split at hb
  · cases hb
  · next a mid ha =>
    split at hb
    · next hb' =>
      cases hb
      exact hcheck a b (h cs a _ ha) hb'
    · cases hb

theorem spanned (h : Yields read P) : Yields (spanned read) fun a => P a.1 := by
  intro cs a rest ha
  rw [Read.spanned] at ha
  split at ha
  · cases ha
  · next b mid hb =>
    cases ha
    exact h cs b _ hb

theorem softly (h : Yields read P) : Yields (softly read) fun o => ∀ a ∈ o, P a := by
  intro cs o rest ho
  rw [Read.softly] at ho
  split at ho
  · next a mid ha =>
    cases ho
    rintro b ⟨⟩
    exact h cs _ _ ha
  · split at ho
    · cases ho
    · cases ho
      exact nofun

theorem orElse {second : Read α} (h : Yields read P) (hsecond : Yields second P) :
    Yields (orElse read second) P := by
  refine h.softly.bind fun o ho => ?_
  split
  · exact pure (ho _ rfl)
  · exact hsecond

theorem many (h : Yields read P) (n : Nat) : Yields (many read n) fun as => ∀ a ∈ as, P a := by
  induction n with
  | zero => exact pure nofun
  | succ n ih =>
    refine h.softly.bind fun o ho => ?_
    split
    · exact pure nofun
    · exact ih.bind fun as has => pure (List.forall_mem_cons.2 ⟨ho _ rfl, has⟩)

theorem separated {separator : Read Unit} (h : Yields read P) :
    Yields (separated separator read) fun as => ∀ a ∈ as, P a :=
  h.bind fun _ ha => after fun _ => (many (after fun _ => h) _).bind fun _ has =>
    pure (List.forall_mem_cons.2 ⟨ha, has⟩)

end Yields

end Read

open Read

/-! ### Readers of values -/

/-- A value that is made of what is read. -/
theorem placedItem_yields {α : Type} {read : Read α} {item : Span → α → Item} {P : α → Prop}
    (h : Yields read P) (hitem : ∀ span a, P a → (item span a).Distinct) :
    Yields (placedItem read item) Item.Distinct :=
  h.spanned.bind fun a ha => .pure (hitem a.2 a.1 ha)

theorem field_yields {value : Read Item} (h : Yields value Item.Distinct) :
    Yields (field value) fun f => f.value.Distinct :=
  .after fun _ => .certain (.after fun _ => .after fun _ => h.bind fun _ hv => .pure hv)

theorem array_yields {value : Read Item} (h : Yields value Item.Distinct) :
    Yields (array value) fun items => ∀ item ∈ items, item.Distinct := by
  refine .after fun _ => .certain (.bind (.softly (.separated
    (.after fun _ => h.bind fun _ hv => .after fun _ => .pure hv))) fun o ho => ?_)
  have hend : ∀ item ∈ o.getD [], item.Distinct := by
    cases o with
    | none => exact nofun
    | some items => exact ho items rfl
  split
  · exact .after fun _ => .after fun _ => .after fun _ => .pure hend
  · exact .after fun _ => .after fun _ => .pure hend

theorem inlineTable_yields {value : Read Item} (h : Yields value Item.Distinct) :
    Yields (inlineTable value) Table.Distinct := by
  have hfields : Yields (do
      let fields ← softly (separated (char ',') do
        let f ← field value
        blanks
        return f)
      blanks
      return fields.getD [] : Read (List Field)) fun fields => ∀ f ∈ fields, f.value.Distinct := by
    refine .bind (.softly (.separated ((field_yields h).bind fun _ hf => .after fun _ => .pure hf))) ?_
    intro o ho
    refine .after fun _ => .pure ?_
    -- between braces there may be nothing
    cases o with
    | none => exact nofun
    | some fields => exact ho fields rfl
  exact .after fun _ => .certain (.bind (.checked hfields fun _ _ hf ht => Table.ofFields_distinct hf ht)
    fun _ ht => .after fun _ => .pure ht)

theorem valueWith_yields {list : Read (List Item)} {braces : Read Table}
    (hlist : Yields list fun items => ∀ item ∈ items, item.Distinct)
    (hbraces : Yields braces Table.Distinct) : Yields (valueWith list braces) Item.Distinct := by
  have hinteger : Yields (placedItem integer .whole) Item.Distinct :=
    placedItem_yields .trivial fun _ _ _ => .whole
  have hfloat : Yields (placedItem float .real) Item.Distinct :=
    placedItem_yields .trivial fun _ _ _ => .real
  have hword {read : Read Item} (h : Yields read Item.Distinct) : Yields (wordOr read) Item.Distinct :=
    .called (.wanting h)
  -- the first character tells what kind of value it is, and only lists and tables can hold a table
  refine .after fun c => ?_
  split
  · exact .stop
  · exact placedItem_yields .trivial fun _ _ _ => .text
  · exact placedItem_yields .trivial fun _ _ _ => .text
  · exact placedItem_yields hlist fun _ _ h => .list h
  · exact placedItem_yields hbraces fun _ _ h => h.of_entries rfl
  · exact .wanting hinteger
  · exact .wanting hfloat
  · exact hword (.certain (placedItem_yields .trivial fun _ _ _ => .switch))
  · exact hword (.certain (placedItem_yields .trivial fun _ _ _ => .switch))
  · exact hword (placedItem_yields .trivial fun _ _ _ => .real)
  · exact hword (placedItem_yields .trivial fun _ _ _ => .real)
  · split
    · exact .orElse (placedItem_yields .trivial fun _ _ _ => .moment) (.orElse hfloat hinteger)
    · exact hword .stop

/-- **No value has a key with two values.** -/
theorem value_yields (n : Nat) : Yields (value n) Item.Distinct := by
  induction n with
  | zero => exact valueWith_yields nofun nofun
  | succ n ih => exact valueWith_yields (array_yields ih) (inlineTable_yields ih)

/-! ### Readers of documents -/

theorem line_yields {d : Draft} (hd : d.Distinct) : Yields (line d) Draft.Distinct := by
  refine .after fun cs => ?_
  split
  · exact .stop
  · exact .certain (.after fun _ => .after fun _ => .pure hd)
  · exact .certain (.called (.checked .trivial fun _ _ _ h => Draft.elementHeader_distinct hd h))
  · exact .certain (.called .stop)
  · exact .certain (.called (.checked .trivial fun _ _ _ h => Draft.header_distinct hd h))
  · exact .after fun _ => .pure hd
  · exact .after fun _ => .pure hd
  · have hfield : Yields fieldLine fun f => f.value.Distinct :=
      .after fun _ => .certain (.after fun _ => .after fun _ =>
        (value_yields _).bind fun _ hv => .after fun _ => .pure hv)
    exact .certain (.checked hfield fun _ _ hf h => Draft.field_distinct hd hf h)

theorem lines_yields (n : Nat) {d : Draft} (hd : d.Distinct) : Yields (lines n d) Draft.Distinct := by
  induction n generalizing d with
  | zero => exact .pure hd
  | succ n ih =>
    refine .after fun _ => (line_yields hd).softly.bind fun o ho => ?_
    split
    · exact .pure hd
    · exact ih (ho _ rfl)

theorem document_yields : Yields document Draft.Distinct := by
  refine .after fun _ => .after fun cs => ?_
  refine (lines_yields _ ⟨Table.distinct_nil, Table.distinct_nil⟩).bind fun d hd => .after fun c => ?_
  split
  · exact .stop
  · exact .pure hd

/-- **No key of a document has two values**, nor has one in any table that stands in it. -/
theorem parse_distinct {text : String} {t : Table} (h : parse text = .ok t) : t.Distinct := by
  rw [parse] at h
  split at h
  · cases h
  · next d rest hd =>
    split at h
    · next t' hclose =>
      cases h
      exact Draft.close_distinct (document_yields _ d rest hd) hclose
    · cases h

end EnvSchema.Data.Toml
