import EnvSchema.Proofs.Data.Toml.Distinct
import EnvSchema.Proofs.Data.Toml.Values

/-!
# Documents are read as they have been written

A document is written line by line, and read line by line. What has been read of it up to a line is a
draft that holds what has been written up to there: the tables before the last header, and the settings
behind it. No table may be written twice, and no key twice in one table.

* `Table.Holds`, `Table.HoldsAll` — what a table says, and what a document does;
* `Draft.Grows` — lines that lead from one draft to another;
* `Draft.At.field`, `Draft.At.close` — what one more line does to the draft;
* `parse_documentText` — documents.
-/

namespace EnvSchema.Data.Toml

open Read

variable {cs rest text : List Char} {d d' : Draft} {t : Table} {key : Key} {name : String}
  {setting : Setting} {settings done : List (String × Setting)}
  {tables before : List (String × List (String × Setting))}

/-! ### What documents say -/

/-- **A table says some settings**, in their order, and nothing else. -/
def Table.Holds (t : Table) (settings : List (String × Setting)) : Prop :=
  List.Forall₂ (fun s e => e.1.name = s.1 ∧ e.2.Says s.2) settings t.entries

/-- **A document has some tables**, in their order, and nothing else. -/
def Table.HoldsAll (t : Table) (tables : List (String × List (String × Setting))) : Prop :=
  List.Forall₂ (fun s e => e.1.name = s.1 ∧ ∃ g : Table, e.2 = .table g ∧ g.Holds s.2) tables t.entries

private theorem map_eq_of_forall₂ {α β : Type} {R : α → β → Prop} {f : α → String} {g : β → String}
    {l : List α} {m : List β} (h : List.Forall₂ R l m) (hR : ∀ a b, R a b → g b = f a) :
    m.map g = l.map f := by
  induction h with
  | nil => rfl
  | cons hab _ ih => rw [List.map_cons, List.map_cons, hR _ _ hab, ih]

theorem Table.Holds.keyNames_eq (h : t.Holds settings) : t.keyNames = settings.map (·.1) :=
  map_eq_of_forall₂ h fun _ _ he => he.1

theorem Table.HoldsAll.keyNames_eq (h : t.HoldsAll tables) : t.keyNames = tables.map (·.1) :=
  map_eq_of_forall₂ h fun _ _ he => he.1

/-- What is found under a name is what has been written under it. -/
private theorem rel_find?_lookup {α : Type} {R : Item → α → Prop} {l : List (String × α)}
    (h : List.Forall₂ (fun s e => e.1.name = s.1 ∧ R e.2 s.2) l t.entries) (name : String) :
    Option.Rel R (t.find? name) (l.lookup name) := by
  rw [Table.find?]
  generalize t.entries = es at h ⊢
  induction h with
  | nil => exact .none
  | @cons s e _ _ he _ ih =>
    rw [List.find?_cons, List.lookup_cons, he.1, Bool.beq_comm (a := s.1)]
    cases hname : name == s.1 with
    | true => exact .some he.2
    | false => exact ih

theorem Table.Holds.find? (h : t.Holds settings) (name : String) :
    Option.Rel Item.Says (t.find? name) (settings.lookup name) :=
  rel_find?_lookup h name

theorem Table.HoldsAll.find? (h : t.HoldsAll tables) (name : String) :
    Option.Rel (fun item settings => ∃ g : Table, item = .table g ∧ g.Holds settings) (t.find? name)
      (tables.lookup name) :=
  rel_find?_lookup (R := fun item settings => ∃ g : Table, item = .table g ∧ g.Holds settings) h name

/-! ### What one line does -/

/-- Behind no path there is the table that it starts from. -/
theorem Table.change_nil {w : Way} (change : Table → Except Cause Table) :
    t.change w change [] = change t := by
  rw [Table.change]
  simp only [Table.within]
  cases change t <;> rfl

theorem Table.add_new {value : Item} {table : Option (List String)} (hnew : key.name ∉ t.keyNames) :
    Table.add false table key value t = .ok (t.insert key value) := by
  rw [Table.add, Table.find?_eq_none_iff.2 hnew]
  rfl

/-- **The table that was started last** stands right in the document and says some settings. -/
structure Draft.At (d : Draft) (root : Table) (key : Key) (settings : List (String × Setting)) : Prop where
  root : d.root = root
  path : d.path = some ([], key)
  isElement : d.isElement = false
  current : d.current.Holds settings

namespace Draft

/-- One more setting. -/
theorem At.field {k : Key} {item : Item} {root : Table} (h : d.At root key settings)
    (hnew : k.name ∉ settings.map (·.1)) (hsaid : item.Says setting) :
    ∃ d', d.field ⟨[], k, item⟩ = .ok d' ∧ d'.At root key (settings ++ [(k.name, setting)]) := by
  rw [← h.current.keyNames_eq] at hnew
  -- where the table stands changes as well, but that is not part of what it says
  obtain ⟨span, hfield⟩ : ∃ span, d.field ⟨[], k, item⟩ = (do
      let current ← Table.add false (some d.way) k item { d.current with span := span }
      return { d with current := current }) := by
    simp only [Draft.field, Table.change_nil]
    exact ⟨_, rfl⟩
  have hplaced : k.name ∉ Table.keyNames { d.current with span := span } := hnew
  rw [Table.add_new hplaced] at hfield
  refine ⟨_, hfield, h.root, h.path, h.isElement, ?_⟩
  change Table.Holds (Table.insert { d.current with span := span } k item) _
  rw [Table.Holds, Table.entries_insert hplaced]
  exact List.rel_append h.current (.cons ⟨rfl, hsaid⟩ .nil)

/-- The document with the table that was started last. -/
theorem At.close {root : Table} (h : d.At root key settings) (hroot : root.HoldsAll before)
    (hnew : key.name ∉ before.map (·.1)) :
    ∃ t, d.close = .ok t ∧ t.HoldsAll (before ++ [(key.name, settings)]) := by
  rw [← hroot.keyNames_eq] at hnew
  refine ⟨root.insert key (.table d.current), ?_, ?_⟩
  · rw [Draft.close, h.path, h.root, h.isElement]
    dsimp only
    rw [Table.change_nil]
  · rw [Table.HoldsAll, Table.entries_insert hnew]
    exact List.rel_append hroot (.cons ⟨rfl, _, rfl, h.current⟩ .nil)

/-- A header that has not been there starts a table without settings. -/
theorem header_new (key : Key) (span : Span) (hclose : d.close = .ok t) (hnew : key.name ∉ t.keyNames) :
    ∃ d', d.header [] key span = .ok d' ∧ d'.At t key [] := by
  refine ⟨{ root := t, current := { form := .header, span := some span }, path := some ([], key) }, ?_, ?_⟩
  · rw [Draft.header, hclose]
    simp only [Table.within, bind, Except.bind, Table.find?_eq_none_iff.2 hnew]
    rfl
  · exact ⟨rfl, rfl, rfl, .nil⟩

end Draft

/-! ### Lines -/

/-- **Lines lead from one draft to another**, however many more there are. -/
def Draft.Grows (d : Draft) (text : List Char) (d' : Draft) (rest : List Char) : Prop :=
  ∀ n, text.length < n → ∃ m, rest.length < m ∧ lines n d text = lines m d' rest

theorem Draft.Grows.refl (d : Draft) (text : List Char) : d.Grows text d text := fun n hn => ⟨n, hn, rfl⟩

theorem Draft.Grows.trans {d'' : Draft} {mid : List Char} (h : d.Grows text d' mid)
    (h' : d'.Grows mid d'' rest) : d.Grows text d'' rest := by
  intro n hn
  obtain ⟨m, hm, hfirst⟩ := h n hn
  obtain ⟨k, hk, hsecond⟩ := h' m hm
  exact ⟨k, hk, hfirst.trans hsecond⟩

/-- One line. -/
theorem Draft.Grows.of_line (hblank : ∀ c ∈ text.head?, isBlank c = false)
    (hline : line d text = .ok (d', rest)) (hlt : rest.length < text.length) : d.Grows text d' rest := by
  intro n hn
  obtain ⟨n, rfl⟩ := Nat.exists_eq_add_one_of_ne_zero (Nat.ne_zero_of_lt hn)
  exact ⟨n, by omega, (bind_ok (blanks_self hblank)).trans (bind_ok (softly_of_ok hline))⟩

/-- At the end of a document there is nothing more on any line. -/
theorem lines_nil (n : Nat) (d : Draft) : lines n d [] = .ok (d, []) := by
  cases n with
  | zero => rfl
  | succ n =>
    have hline : Declines (line d) [] := declines_stop
    exact (bind_ok (blanks_self (by simp))).trans (bind_ok (softly_of_declines hline))

/-- An empty line. -/
theorem grows_newline : d.Grows ('\n' :: rest) d rest := by
  have hline : line d ('\n' :: rest) = .ok (d, rest) :=
    (bind_ok (rfl : (left : Read (List Char)) ('\n' :: rest) = _)).trans (bind_ok newline_cons)
  exact .of_line (by rintro c ⟨⟩; decide) hline (Nat.lt_succ_self _)

/-! #### Settings -/

/-- A line that starts with a name is a key with its value. -/
theorem line_of_isKeyChar {c : Char} (hc : isKeyChar c = true) :
    line d (c :: cs) = certain (checked d.field fieldLine) (c :: cs) := by
  refine (bind_ok (rfl : (left : Read (List Char)) (c :: cs) = _)).trans ?_
  generalize htext : c :: cs = text
  split
  case h_8 => rfl
  all_goals
    cases htext
    try exact absurd hc (by decide)

/-- The line of a setting. -/
def settingLine (s : String × Setting) : List Char :=
  s.1.toList ++ (" = ".toList ++ (s.2.write.toList ++ ['\n']))

/-- **A setting is read as it has been written.** -/
theorem fieldLine_settingLine (h : IsBare name) (setting : Setting) (rest : List Char) : ∃ span item,
    fieldLine (settingLine (name, setting) ++ rest) = .ok (⟨[], ⟨name, span⟩, item⟩, rest) ∧
      item.Says setting := by
  obtain ⟨item, hitem, hsaid⟩ := value_write 78 setting ('\n' :: rest) (by simp)
  obtain ⟨c, t, ht, hc⟩ := setting.exists_write
  have hsplit : settingLine (name, setting) ++ rest =
      name.toList ++ ([' '] ++ '=' :: ([' '] ++ (setting.write.toList ++ '\n' :: rest))) := by
    simp [settingLine]
  -- the name, the blanks around the sign, the value and the end of the line are read one after the other
  obtain ⟨span, hkey⟩ := key_bare h ('=' :: ([' '] ++ (setting.write.toList ++ '\n' :: rest)))
    (u := [' ']) (by simp [isBlank]) (by
      rintro d ⟨⟩
      decide)
  have hblanks : blanks ([' '] ++ (setting.write.toList ++ '\n' :: rest)) =
      .ok ((), setting.write.toList ++ '\n' :: rest) := by
    refine blanks_append (by simp [isBlank]) ?_
    rw [ht]
    rintro d ⟨⟩
    rcases hc with rfl | rfl | rfl <;> decide
  refine ⟨span, item, ?_, hsaid⟩
  rw [hsplit]
  exact (bind_ok hkey).trans (certain_of_ok ((bind_ok (wanting_of_ok (char_cons '='))).trans
    ((bind_ok hblanks).trans ((bind_ok hitem).trans (bind_ok (wanting_of_ok lineEnd_newline))))))

theorem Draft.At.grows_setting {root : Table} (h : d.At root key done) (hbare : IsBare name)
    (hnew : name ∉ done.map (·.1)) (setting : Setting) (rest : List Char) :
    ∃ d', d.Grows (settingLine (name, setting) ++ rest) d' rest ∧
      d'.At root key (done ++ [(name, setting)]) := by
  obtain ⟨span, item, hread, hsaid⟩ := fieldLine_settingLine hbare setting rest
  obtain ⟨d', hfield, hat⟩ := h.field (k := ⟨name, span⟩) hnew hsaid
  obtain ⟨c, cs, hname, hc, -⟩ := hbare.exists_cons
  have htext : settingLine (name, setting) ++ rest =
      c :: (cs ++ (" = ".toList ++ (setting.write.toList ++ ['\n'])) ++ rest) := by
    rw [settingLine, hname]
    rfl
  refine ⟨d', .of_line ?_ ?_ ?_, hat⟩
  · rw [htext]
    rintro e ⟨⟩
    exact isBlank_of_isKeyChar hc
  · rw [htext, line_of_isKeyChar hc, ← htext]
    exact certain_of_ok (checked_of_ok hread hfield)
  · rw [htext, List.length_cons, List.length_append]
    omega

/-- **The settings of a table.** -/
theorem Draft.At.grows_settings {root : Table} (h : d.At root key done)
    (hbare : ∀ s ∈ settings, IsBare s.1) (hdistinct : ((done ++ settings).map (·.1)).Nodup)
    (rest : List Char) :
    ∃ d', d.Grows (settings.flatMap settingLine ++ rest) d' rest ∧ d'.At root key (done ++ settings) := by
  -- each line puts one more setting behind those that are done
  induction settings generalizing d done with
  | nil => exact ⟨d, .refl d rest, by rwa [List.append_nil]⟩
  | cons s settings ih =>
    obtain ⟨hs, hbare⟩ := List.forall_mem_cons.1 hbare
    have hnew : s.1 ∉ done.map (·.1) := Table.not_mem_map_before hdistinct
    obtain ⟨d', hfirst, hat⟩ := h.grows_setting hs hnew s.2 (settings.flatMap settingLine ++ rest)
    obtain ⟨d'', hrest, hat⟩ := ih hat hbare (by simpa using hdistinct)
    refine ⟨d'', ?_, by simpa using hat⟩
    rw [List.flatMap_cons, List.append_assoc]
    exact hfirst.trans hrest

/-! #### Tables -/

/-- A line that starts with a name in brackets is a header. -/
theorem line_of_bracket {c : Char} (hc : isKeyChar c = true) : line d ('[' :: c :: cs) =
    certain (called .tableHeader
      (checked (fun ((parents, key), span) => d.header parents key span) (headerLine "[" "]")))
        ('[' :: c :: cs) := by
  refine (bind_ok (rfl : (left : Read (List Char)) ('[' :: c :: cs) = _)).trans ?_
  generalize htext : '[' :: c :: cs = text
  split
  case h_5 => rfl
  case h_8 hne _ _ => exact (hne _ htext.symm).elim
  all_goals cases htext <;> exact absurd hc (by decide)

/-- **A header is read as it has been written.** -/
theorem headerLine_bare (h : IsBare name) (rest : List Char) : ∃ keySpan span,
    headerLine "[" "]" ('[' :: (name.toList ++ ']' :: '\n' :: rest)) =
      .ok ((([], ⟨name, keySpan⟩), span), rest) := by
  obtain ⟨keySpan, hkey⟩ : ∃ keySpan, key (name.toList ++ ']' :: '\n' :: rest) =
      .ok (([], ⟨name, keySpan⟩), ']' :: '\n' :: rest) :=
    key_bare h (']' :: '\n' :: rest) (u := []) nofun (by rintro d ⟨⟩; decide)
  have hopening : literal "[" ('[' :: (name.toList ++ ']' :: '\n' :: rest)) =
      .ok ((), name.toList ++ ']' :: '\n' :: rest) :=
    literal_append
  have hclosing : literal "]" (']' :: '\n' :: rest) = .ok ((), '\n' :: rest) := literal_append
  -- the header is its opening, the key and its closing, before the end of the line
  have hheader : (do
      literal "["
      certain do
        let k ← key
        wanting [.sign ".", .sign "]"] (literal "]")
        return k : Read (List Key × Key)) ('[' :: (name.toList ++ ']' :: '\n' :: rest)) =
      .ok (([], ⟨name, keySpan⟩), '\n' :: rest) :=
    (bind_ok hopening).trans (certain_of_ok ((bind_ok hkey).trans (bind_ok (wanting_of_ok hclosing))))
  exact ⟨keySpan, _, (bind_ok (spanned_of_ok hheader)).trans
    (bind_ok (certain_of_ok (wanting_of_ok lineEnd_newline)))⟩

theorem Draft.grows_header (hclose : d.close = .ok t) (hbare : IsBare name) (hnew : name ∉ t.keyNames)
    (rest : List Char) :
    ∃ d' span, d.Grows ('[' :: (name.toList ++ ']' :: '\n' :: rest)) d' rest ∧ d'.At t ⟨name, span⟩ [] := by
  obtain ⟨keySpan, span, hread⟩ := headerLine_bare hbare rest
  obtain ⟨d', hheader, hat⟩ := header_new ⟨name, keySpan⟩ span hclose hnew
  obtain ⟨c, cs, hname, hc, -⟩ := hbare.exists_cons
  rw [hname, List.cons_append] at hread ⊢
  refine ⟨d', keySpan, .of_line ?_ ?_ ?_, hat⟩
  · rintro e ⟨⟩
    decide
  · rw [line_of_bracket hc]
    exact certain_of_ok (called_of_ok (checked_of_ok hread hheader))
  · simp only [List.length_cons, List.length_append]
    omega

theorem toList_tableText : (tableText name settings).toList =
    '[' :: (name.toList ++ ']' :: '\n' :: settings.flatMap settingLine) := by
  have hline : settingLine = fun s => s.1.toList ++ ' ' :: '=' :: ' ' :: (s.2.write.toList ++ ['\n']) := by
    funext s
    simp [settingLine]
  simp [tableText, hline, String.toList_join, List.flatMap_map]

/-- **One more table.** -/
theorem Draft.grows_table (hclose : d.close = .ok t) (ht : t.HoldsAll before) (hbare : IsBare name)
    (hnew : name ∉ before.map (·.1)) (hkeys : ∀ s ∈ settings, IsBare s.1)
    (hdistinct : (settings.map (·.1)).Nodup) (rest : List Char) :
    ∃ d' t', d.Grows ((tableText name settings).toList ++ rest) d' rest ∧ d'.close = .ok t' ∧
      t'.HoldsAll (before ++ [(name, settings)]) := by
  obtain ⟨start, span, hstart, hat⟩ := grows_header hclose hbare (ht.keyNames_eq ▸ hnew)
    (settings.flatMap settingLine ++ rest)
  obtain ⟨d', hgrows, hat⟩ := hat.grows_settings hkeys hdistinct rest
  obtain ⟨t', hclose', ht'⟩ := hat.close ht hnew
  refine ⟨d', t', ?_, hclose', ht'⟩
  rw [toList_tableText]
  simpa using hstart.trans hgrows

/-- **Tables that can be written**: they have different names, and so have the keys in each of them; all
these names may stand without quotes. -/
structure Writable (tables : List (String × List (String × Setting))) : Prop where
  names : ∀ table ∈ tables, IsBare table.1
  distinct : (tables.map (·.1)).Nodup
  keys : ∀ table ∈ tables, ∀ s ∈ table.2, IsBare s.1
  keysDistinct : ∀ table ∈ tables, (table.2.map (·.1)).Nodup

/-- The text of more tables: an empty line stands before each of them. -/
def laterTables (tables : List (String × List (String × Setting))) : List Char :=
  tables.flatMap fun table => '\n' :: (tableText table.1 table.2).toList

/-- More tables. -/
theorem Draft.grows_tables (hclose : d.close = .ok t) (ht : t.HoldsAll before)
    (h : Writable (before ++ tables)) :
    ∃ d' t', d.Grows (laterTables tables) d' [] ∧ d'.close = .ok t' ∧ t'.HoldsAll (before ++ tables) := by
  -- each table closes the one before it, so all of them are held when the last is closed
  induction tables generalizing d t before with
  | nil => exact ⟨d, t, .refl d [], hclose, by rwa [List.append_nil]⟩
  | cons table tables ih =>
    obtain ⟨name, settings⟩ := table
    have hmem : (name, settings) ∈ before ++ (name, settings) :: tables := by simp
    have hnew : name ∉ before.map (·.1) := Table.not_mem_map_before h.distinct
    obtain ⟨d', t', hfirst, hclose', ht'⟩ := grows_table hclose ht (h.names _ hmem) hnew (h.keys _ hmem)
      (h.keysDistinct _ hmem) (laterTables tables)
    rw [List.append_cons] at h ⊢
    obtain ⟨d'', t'', hrest, hclose'', ht''⟩ := ih hclose' ht' h
    refine ⟨d'', t'', ?_, hclose'', ht''⟩
    rw [laterTables, List.flatMap_cons, List.cons_append]
    exact grows_newline.trans (hfirst.trans hrest)

/-! ### Documents -/

theorem toList_documentText_cons {table : String × List (String × Setting)} :
    (documentText (table :: tables)).toList = (tableText table.1 table.2).toList ++ laterTables tables := by
  induction tables generalizing table with
  | nil => simp [documentText, laterTables]
  | cons next tables ih =>
    have hcons : documentText (table :: next :: tables) =
        tableText table.1 table.2 ++ "\n" ++ documentText (next :: tables) := by
      rw [documentText, List.map_cons, List.map_cons, String.intercalate_cons_cons]
      rfl
    rw [hcons, String.toList_append, String.toList_append, ih, laterTables, laterTables, List.flatMap_cons]
    simp

/-- The draft that a document starts with, where so many characters are left. -/
def Draft.start (n : Nat) : Draft where
  current := { form := .header, span := some ⟨n, n⟩ }

/-- All tables of a document. -/
theorem Draft.grows_documentText (h : Writable tables) (n : Nat) :
    ∃ d t, (start n).Grows (documentText tables).toList d [] ∧ d.close = .ok t ∧ t.HoldsAll tables := by
  have hclose : (start n).close = .ok (start n).current := rfl
  have hnone : (start n).current.HoldsAll [] := .nil
  cases tables with
  | nil => exact ⟨start n, _, .refl _ [], hclose, hnone⟩
  | cons table tables =>
    have hmem : table ∈ table :: tables := List.mem_cons_self
    obtain ⟨d, t, hfirst, hclose, ht⟩ := grows_table hclose hnone (h.names _ hmem) nofun (h.keys _ hmem)
      (h.keysDistinct _ hmem) (laterTables tables)
    obtain ⟨d', t', hrest, hclose', ht'⟩ := grows_tables hclose ht h
    refine ⟨d', t', ?_, hclose', ht'⟩
    rw [toList_documentText_cons]
    exact hfirst.trans hrest

/-- No document is written with a mark of the order of bytes. -/
theorem head?_documentText (tables : List (String × List (String × Setting))) :
    ∀ c ∈ (documentText tables).toList.head?, c ≠ '\ufeff' := by
  cases tables with
  | nil => exact nofun
  | cons table tables =>
    rw [toList_documentText_cons, toList_tableText]
    rintro c ⟨⟩
    decide

/-- **A document is read as it has been written**: it says the settings that have been written, each of
them in its table. -/
theorem parse_documentText (h : Writable tables) :
    ∃ t, parse (documentText tables) = .ok t ∧ t.HoldsAll tables := by
  set text := (documentText tables).toList with htext
  obtain ⟨d, t, hgrows, hclose, ht⟩ := Draft.grows_documentText h text.length
  obtain ⟨m, -, hlines⟩ := hgrows (text.length + 1) (Nat.lt_succ_self _)
  rw [← htext, lines_nil] at hlines
  have hmark : Declines (char '\ufeff') text := declines_char (head?_documentText tables)
  have hdocument : document text = .ok (d, []) :=
    (bind_ok (softly_of_declines hmark)).trans
      ((bind_ok (rfl : (left : Read (List Char)) text = _)).trans ((bind_ok hlines).trans rfl))
  refine ⟨t, ?_, ht⟩
  rw [parse, ← htext, hdocument]
  dsimp only
  rw [hclose]

end EnvSchema.Data.Toml
