import EnvSchema.Proofs.Interactive
import EnvSchema.Proofs.Remediation
import EnvSchema.Proofs.Schema.Growing
import EnvSchema.Proofs.Schema.History
import EnvSchema.Proofs.Stopping

/-!
# A remediation, question by question

While names are offered the schema changes with every reply, its file does not, and the last name is
followed by one write at most. So what has been asked tells what has been replied, that tells which
fields the schema has got, and those tell what is in the file.

* `Dialogue.fields` — the fields that come of a dialogue;
* `offerAll_adds` — **offers add the fields of their dialogue**, and nothing else;
* `Module.Appends` — a module that gets properties, one after the other, where the server's fields are;
* `Schema.Adds.appends`, `Schema.Adds.appends_last` — where the fields of a schema are afterwards;
* `saves_of_remediate`, `failed_of_remediate` — what is saved, and how it fails;
* `remediate_asks` — **what a remediation asks, answers and writes**.
-/

namespace EnvSchema

open Script (IsName Module Node Place Span)

variable {p : Prompter} {settings : SchemaSettings} {name : String} {names added : List String}
  {missing declared declared' : Names} {reply : Reply} {isAdded : Bool} {d : Dialogue}
  {adds : List (String × FieldType)} {s s' : Schema} {e e' : Editing} {f : Failure}

/-! ### The fields of a dialogue -/

/-- The field that comes of a reply, if the name is not declared. -/
def Reply.field? (declared : Names) (name : String) : Reply → Option (String × FieldType)
  | .declined => none
  | .typed type => if type ≠ .other ∧ name ∉ declared then some (name, type) else none

/-- **The fields that come of a dialogue**, each with the type that was picked for it. -/
def Dialogue.fields (declared : Names) (d : Dialogue) : List (String × FieldType) :=
  d.filterMap fun entry => entry.2.field? declared entry.1

theorem Dialogue.fields_cons (name : String) (reply : Reply) (d : Dialogue) :
    fields declared ((name, reply) :: d) =
      (reply.field? declared name).toList ++ fields declared d := by
  rw [fields, List.filterMap_cons]
  cases reply.field? declared name <;> rfl

/-- The fields are those of the names that were chosen and are not declared. -/
theorem Dialogue.names_fields (declared : Names) (d : Dialogue) :
    (d.fields declared).map (·.1) = d.chosen.filter fun n => n ∉ declared := by
  -- entry by entry: a reply that adds nothing is passed over by both sides, and one that adds something is
  -- passed over by both if its name is declared
  induction d with
  | nil => rfl
  | cons entry d ih =>
    obtain ⟨n, reply⟩ := entry
    rw [fields_cons, chosen_cons, List.map_append, ih]
    cases reply with
    | declined => rfl
    | typed type =>
      by_cases hother : type = .other
      · simp [Reply.field?, Reply.adds, hother]
      · by_cases hn : n ∈ declared <;> simp [Reply.field?, Reply.adds, hother, hn]

/-- Which fields come of a dialogue hangs on which of its names are declared. -/
theorem Dialogue.fields_congr (h : ∀ x ∈ d.map (·.1), x ∈ declared ↔ x ∈ declared') :
    d.fields declared = d.fields declared' := by
  refine List.filterMap_congr fun entry hentry => ?_
  have hiff := h entry.1 (List.mem_map_of_mem hentry)
  cases entry.2 with
  | declined => rfl
  | typed type => simp only [Reply.field?, hiff]

/-- **What the offer of a name adds** is the field that comes of the reply. -/
theorem Offered.field (h : Offered p settings name e reply isAdded e') :
    isAdded = false ∧ reply.field? e.schema.declared name = none ∧ e'.schema = e.schema ∨
      isAdded = true ∧ ∃ type, reply.field? e.schema.declared name = some (name, type) ∧
        e.schema.add name type settings = .ok (true, e'.schema) := by
  have hiff := h.isAdded_iff
  rcases h.schema with ⟨rfl, hsame⟩ | ⟨rfl, type, rfl, hgets⟩
  · refine .inl ⟨rfl, ?_, hsame⟩
    cases reply with
    | declined => rfl
    | typed type =>
      -- a reply with a type that has a call would have added the field of a name that is not declared
      refine if_neg fun hadds => Bool.false_ne_true (hiff.2 ⟨decide_eq_true hadds.1, hadds.2⟩)
  · obtain ⟨hadds, hname⟩ := hiff.1 rfl
    exact .inr ⟨rfl, type, if_pos ⟨of_decide_eq_true hadds, hname⟩, hgets.add_eq_ok⟩

/-- **Offers of different names that do not fail** add the fields of their dialogue, and no file is
changed. -/
theorem offerAll_adds (hnames : names.Nodup) (h : offerAll p settings names e = .ok added e') :
    ∃ d, OfferedAll p names e d added e' ∧
      e.schema.Adds settings (d.fields e.schema.declared) e'.schema ∧
      e'.session.tree = e.session.tree := by
  -- by induction on the names, for any state that the offers start from
  induction names generalizing e added with
  | nil =>
    cases h
    exact ⟨[], .nil _ _, .nil _, rfl⟩
  | cons n ns ih =>
    obtain ⟨hn, hns⟩ := List.nodup_cons.1 hnames
    obtain ⟨isAdded, e₁, h₁, h⟩ := bind_eq_ok_iff.1 h
    obtain ⟨rest, e₂, h₂, h⟩ := bind_eq_ok_iff.1 h
    cases h
    obtain ⟨reply, hoffered⟩ := offer_eq_ok h₁
    obtain ⟨d, hall, hadds, htree⟩ := ih hns h₂
    refine ⟨(n, reply) :: d, .cons hn hoffered hall, ?_, htree.trans hoffered.tree⟩
    -- the names that are still to come are declared after the first offer just if they were before
    have hfields : d.fields e₁.schema.declared = d.fields e.schema.declared := by
      refine Dialogue.fields_congr fun x hx => ?_
      rw [hall.names_eq] at hx
      rw [hoffered.declared]
      exact or_iff_left fun hadded => hn (hadded.2 ▸ hx)
    rw [hfields] at hadds
    rw [Dialogue.fields_cons]
    rcases hoffered.field with ⟨-, hnone, hsame⟩ | ⟨-, type, hsome, hadd⟩
    · rw [hnone, ← hsame]
      rw [← hsame] at hadds
      exact hadds
    · rw [hsome]
      exact .cons hadd hadds

/-! ### Where the fields are afterwards -/

namespace Script

/-- **A phrase that is read from the text of a field.** -/
def Node.IsReadFrom (property : Node) (text : String) : Prop :=
  ∃ m : Module, m.property text = .ok property

/-- What is read from the text of a field is that field, if the library goes by an identifier. -/
theorem Node.IsReadFrom.isFieldOf {property : Node} {text : String} {type : FieldType} {space : String}
    (hspace : IsName space) (htext : fieldText? name type space = some text)
    (h : property.IsReadFrom text) : property.IsFieldOf name space type.calls := by
  obtain ⟨m, hm⟩ := h
  obtain ⟨p, hp, hfield⟩ := property_of_fieldText m hspace htext
  rwa [Except.ok.inj (hm.symm.trans hp)]

/-- **A module gets properties, one after the other**: each becomes the last property of the object that
holds the server's fields by then. -/
inductive Module.Appends (settings : SchemaSettings) : Module → List Node → Module → Prop
  | nil (m : Module) : Appends settings m [] m
  | cons {m m' : Module} {place : Place} {span : Span} {props properties : List Node} {property : Node}
      {free : Nat} (hat : m.FieldsAt settings place span props)
      (hrest : Appends settings
        { m.put place (.mk span (.object (props ++ [property]))) with free := free } properties m') :
      Appends settings m (property :: properties) m'

namespace Module.Appends

variable {m m' : Module} {place : Place} {span : Span} {props properties : List Node}

/-- **Fields that are appended are behind each other in one object**: none of them holds another object
for the next one. -/
theorem append (h : m.Appends settings properties m')
    (hfields : List.Forall₂ (fun add p => p.IsFieldOf add.1 settings.space add.2.calls) adds properties)
    (hat : m.FieldsAt settings place span props) :
    m'.FieldsAt settings place span (props ++ properties) := by
  induction h generalizing adds props with
  | nil m => rwa [List.append_nil]
  | cons hat' _ ih =>
    -- the object that gets the next property is the one that got the last, for it is the first of its kind
    obtain ⟨rfl, rfl, rfl⟩ := hat.unique hat'
    cases hfields with
    | cons hfield hfields =>
      have happend := hat.append hfield.holdsNone
      rw [List.append_cons]
      exact ih hfields ⟨happend.first, happend.object⟩

/-- The same, if there is any field. -/
theorem exists_fieldsAt (h : m.Appends settings properties m') (hne : properties ≠ [])
    (hfields : List.Forall₂ (fun add p => p.IsFieldOf add.1 settings.space add.2.calls) adds properties) :
    ∃ place span props, m.FieldsAt settings place span props ∧
      m'.FieldsAt settings place span (props ++ properties) := by
  cases h with
  | nil => exact absurd rfl hne
  | cons hat hrest => exact ⟨_, _, _, hat, append (.cons hat hrest) hfields hat⟩

end Module.Appends

end Script

/-- **Fields that are added are appended in their order**, each as it is read from its text. -/
theorem Schema.Adds.appends (h : s.Adds settings adds s') : ∃ properties,
    List.Forall₂ (fun add property => ∃ text, fieldText? add.1 add.2 settings.space = some text ∧
      property.IsReadFrom text) adds properties ∧
    s.module.Appends settings properties s'.module := by
  induction h with
  | nil s => exact ⟨[], .nil, .nil _⟩
  | cons hadd _ ih =>
    obtain ⟨properties, hread, happends⟩ := ih
    obtain ⟨text, property, m, htext, hproperty, hm, hs⟩ := (Schema.gets_of_add hadd).module
    obtain ⟨place, span, props, hat, rfl⟩ := Module.fieldsAt_of_appendField? hm
    rw [hs] at happends
    exact ⟨property :: properties, .cons ⟨text, htext, _, hproperty⟩ hread, .cons hat happends⟩

/-- The same for a library that goes by an identifier: **the fields are the last properties of one
object**, the one that held the server's fields before, if there is any field. -/
theorem Schema.Adds.appends_last (h : s.Adds settings adds s') (hne : adds ≠ []) : ∃ properties,
    List.Forall₂ (fun add property => ∃ text, fieldText? add.1 add.2 settings.space = some text ∧
      property.IsReadFrom text) adds properties ∧
    s.module.Appends settings properties s'.module ∧
    (IsName settings.space →
      List.Forall₂ (fun add property => property.IsFieldOf add.1 settings.space add.2.calls)
        adds properties ∧
      ∃ place span props, s.module.FieldsAt settings place span props ∧
        s'.module.FieldsAt settings place span (props ++ properties)) := by
  obtain ⟨properties, hread, happends⟩ := h.appends
  refine ⟨properties, hread, happends, fun hspace => ?_⟩
  have hfields : List.Forall₂ (fun add property => property.IsFieldOf add.1 settings.space add.2.calls)
      adds properties :=
    hread.imp fun add property h => h.elim fun text hread => hread.2.isFieldOf hspace hread.1
  refine ⟨hfields, happends.exists_fieldsAt ?_ hfields⟩
  rintro rfl
  exact hne (List.forall₂_nil_right_iff.1 hread)

/-! ### The whole remediation -/

/-- A schema that gets fields is written where it was. -/
theorem Schema.Adds.path (h : s.Adds settings adds s') : s'.path = s.path := by
  induction h with
  | nil s => rfl
  | cons hadd _ ih => exact ih.trans (Schema.gets_of_add hadd).path

/-- **What a remediation that does not fail saves**: nothing if no field comes of the dialogue, and
otherwise the schema with the fields, which is written and read again. -/
theorem saves_of_remediate (hpending : e.schema.pending = [])
    (h : remediate p settings missing e = .ok added e') : ∃ d printed,
    OfferedAll p missing.toList e d added e' ∧
    e.schema.Adds settings (d.fields e.schema.declared) printed ∧
    (d.fields e.schema.declared).map (·.1) = added ∧
    (added = [] ∧ e'.session.tree = e.session.tree ∧ e'.schema = e.schema ∨
      added ≠ [] ∧ printed.pending ≠ [] ∧
        e.session.tree.writeText printed.path printed.print.1 = .ok e'.session.tree ∧
        printed.print.2.readBack printed.print.1 = .ok e'.schema) := by
  obtain ⟨names, e₁, hoffer, h⟩ := bind_eq_ok_iff.1 h
  obtain ⟨isWritten, e₂, hsave, h⟩ := bind_eq_ok_iff.1 h
  cases h
  obtain ⟨d, hall, hadds, htree⟩ := offerAll_adds missing.toList_nodup hoffer
  have hnames : (d.fields e.schema.declared).map (·.1) = added := by
    rw [Dialogue.names_fields, ← hall.added_eq]
  -- what waits to be written is what has been added
  have hwaits : e₁.schema.pending = added := by
    rw [hadds.pending, hpending, List.nil_append, hnames]
  obtain ⟨hasked, hdeclared⟩ := Edit.asked_save hsave
  refine ⟨d, e₁.schema, hall.to_eq hasked hdeclared, hadds, hnames, ?_⟩
  rcases Edit.save_eq_ok hsave with ⟨-, hnone, rfl⟩ | ⟨-, hsome, t, hwrite, hsession, hback⟩
  · have hempty : added = [] := hwaits.symm.trans hnone
    rw [hempty, List.map_eq_nil_iff] at hnames
    rw [hnames] at hadds
    -- where nothing was added, no field was
    refine .inl ⟨hempty, htree, ?_⟩
    generalize e'.schema = final at hadds
    cases hadds
    rfl
  · rw [htree] at hwrite
    rw [hsession]
    exact .inr ⟨hwaits ▸ hsome, hsome, hwrite, hback⟩

/-- **How a remediation fails**: the offer of some name stops, all names before it having been offered
to their end, or all names have been offered and the schema with its fields cannot be saved. -/
theorem failed_of_remediate (hpending : e.schema.pending = [])
    (h : remediate p settings missing e = .error f e') :
    (∃ done name rest d added e₁ questions, missing.toList = done ++ name :: rest ∧
      OfferedAll p done e d added e₁ ∧ Stops p settings name e₁ questions f ∧
      e'.session.asked = e.session.asked ++ (d.questions ++ questions) ∧
      e'.session.tree = e.session.tree) ∨
    ∃ d added e₁, OfferedAll p missing.toList e d added e₁ ∧ added ≠ [] ∧
      Edit.save e₁ = .error f e' ∧ e'.session.asked = e.session.asked ++ d.questions := by
  rcases bind_eq_error_iff.1 h with hoffer | ⟨added, e₁, hoffer, h⟩
  · -- the names before the one whose offer stops are different ones too, so they add their fields
    obtain ⟨done, name, rest, added, e₁, questions, hsplit, hdone, hstops, rfl⟩ :=
      exists_stops_of_offerAll hoffer
    have hnodup : done.Nodup := by
      have hall := missing.toList_nodup
      rw [hsplit] at hall
      exact hall.sublist (List.sublist_append_left ..)
    obtain ⟨d, hall, -, htree⟩ := offerAll_adds hnodup hdone
    refine .inl ⟨done, name, rest, d, added, e₁, questions, hsplit, hall, hstops, ?_, htree⟩
    rw [Editing.asking, hall.asked, List.append_assoc]
  · obtain ⟨d, hall, hadds, -⟩ := offerAll_adds missing.toList_nodup hoffer
    -- what follows the save only hands on what was added
    have hsave : Edit.save e₁ = .error f e' := by
      rcases bind_eq_error_iff.1 h with h | ⟨_, _, -, h⟩
      · exact h
      · cases h
    obtain ⟨hwaits, -, hsession⟩ := Edit.save_eq_error hsave
    refine .inr ⟨d, added, e₁, hall, ?_, hsave, ?_⟩
    · -- a save with nothing to write does not fail
      rw [hadds.pending, hpending, List.nil_append, Dialogue.names_fields, ← hall.added_eq] at hwaits
      exact hwaits
    · rw [← hall.asked]
      rcases hsession with ⟨-, -, hsession⟩ | ⟨t, c, -, -, hsession⟩
      · rw [hsession]
      · rw [hsession]

/-- **What a remediation asks, answers and writes**, for a schema with nothing to write.

If it does not fail, every name of the set has been offered once, in order: the dialogue is what the user
replies, each reply hanging on all questions before it, and those of the dialogue are all that have been
asked. Answered are the names that were wanted with a type that has a call and were not declared, in
order; they are what is declared more than before. If there are none, the files are as they were.
Otherwise one file has been overwritten once, with the print of the schema with a field for each of these
names: the fields have been appended in this order, and if the library goes by an identifier, they are the
last properties of one object.

If it fails, then some offer has stopped, nothing was asked after that and the files are as they were; or
all names have been offered and the schema with its fields cannot be saved. -/
theorem remediate_asks (hpending : e.schema.pending = []) :
    (∀ added e', remediate p settings missing e = .ok added e' → ∃ d,
      OfferedAll p missing.toList e d added e' ∧ d.map (·.1) = missing.toList ∧
      added.Sublist missing.toList ∧ (d.fields e.schema.declared).map (·.1) = added ∧
      (added = [] → e'.session.tree = e.session.tree ∧ e'.schema = e.schema) ∧
      (added ≠ [] → ∃ printed, e.schema.Adds settings (d.fields e.schema.declared) printed ∧
        e.session.tree.writeText e.schema.path printed.print.1 = .ok e'.session.tree ∧
        ∃ properties, List.Forall₂ (fun add property => ∃ text,
            fieldText? add.1 add.2 settings.space = some text ∧ property.IsReadFrom text)
            (d.fields e.schema.declared) properties ∧
          e.schema.module.Appends settings properties printed.module ∧
          (IsName settings.space →
            List.Forall₂ (fun add property => property.IsFieldOf add.1 settings.space add.2.calls)
              (d.fields e.schema.declared) properties ∧
            ∃ place span props, e.schema.module.FieldsAt settings place span props ∧
              printed.module.FieldsAt settings place span (props ++ properties)))) ∧
    (∀ f e', remediate p settings missing e = .error f e' →
      (∃ done name rest d added e₁ questions, missing.toList = done ++ name :: rest ∧
        OfferedAll p done e d added e₁ ∧ Stops p settings name e₁ questions f ∧
        e'.session.asked = e.session.asked ++ (d.questions ++ questions) ∧
        e'.session.tree = e.session.tree) ∨
      ∃ d added e₁, OfferedAll p missing.toList e d added e₁ ∧ added ≠ [] ∧
        Edit.save e₁ = .error f e' ∧ e'.session.asked = e.session.asked ++ d.questions) := by
  refine ⟨fun added e' h => ?_, fun f e' h => failed_of_remediate hpending h⟩
  obtain ⟨d, printed, hall, hadds, hnames, hfiles⟩ := saves_of_remediate hpending h
  refine ⟨d, hall, hall.names_eq, hall.added_sublist, hnames, fun hempty => ?_, fun hne => ?_⟩
  · rcases hfiles with ⟨-, hsame⟩ | ⟨hne, -⟩
    · exact hsame
    · exact absurd hempty hne
  · rcases hfiles with ⟨hempty, -⟩ | ⟨-, -, hwrite, -⟩
    · exact absurd hempty hne
    -- what is written goes where the schema was read, for fields leave the path alone
    rw [hadds.path] at hwrite
    have hfields : d.fields e.schema.declared ≠ [] := by
      rintro hnil
      rw [hnil] at hnames
      exact hne hnames.symm
    exact ⟨printed, hadds, hwrite, hadds.appends_last hfields⟩

/-- A user who wants a name unless the last question was for a type, and then as the name suggests. -/
def sated : Prompter where
  confirm asked _ := .ok (asked.getLast?.all fun question => question.offered?.isSome)
  pick _ name _ := .ok (guess name)

set_option maxRecDepth 20000 in
/-- Three names are offered to that user: after the first one the second one is not wanted. -/
theorem remediate_asks_sated : ∃ s e', Schema.load bareSession.tree "/schema.mjs" = .ok s ∧
    s.pending = [] ∧
    remediate sated {} (.ofList ["URL", "B", "A"]) ⟨bareSession, s⟩ = .ok ["A", "URL"] e' ∧
    e'.session.asked = [.confirm "A", .pick "A" (ranked "A"), .confirm "B", .confirm "URL",
      .pick "URL" (ranked "URL")] ∧
    ∃ (d : Dialogue) (printed : Schema), d.map (·.1) = ["A", "B", "URL"] ∧
      s.Adds {} (d.fields s.declared) printed ∧
      bareSession.tree.writeText s.path printed.print.1 = .ok e'.session.tree := by
  have hrun : (Schema.load bareSession.tree "/schema.mjs").toOption.any (fun s =>
      (outcome? (remediate sated {} (.ofList ["URL", "B", "A"])) ⟨bareSession, s⟩).any fun r =>
        decide (r.1 = ["A", "URL"]) && decide (r.2.session.asked = [.confirm "A",
          .pick "A" (ranked "A"), .confirm "B", .confirm "URL", .pick "URL" (ranked "URL")])) = true := by
    decide +kernel
  obtain ⟨s, hload, htest⟩ := exists_ok_of_any hrun
  obtain ⟨⟨added, e'⟩, hremediate, htest⟩ := (Option.any_eq_true _ _).1 htest
  obtain ⟨hadded, hasked⟩ := Bool.and_eq_true_iff.1 htest
  obtain rfl : added = ["A", "URL"] := of_decide_eq_true hadded
  have hpending : s.pending = [] := by
    obtain ⟨source, m, -, -, rfl⟩ := Schema.load_eq_ok_iff.1 hload
    rfl
  have hok := outcome?_eq_some_iff.1 hremediate
  obtain ⟨d, -, hnames, -, -, -, hwritten⟩ := (remediate_asks hpending).1 _ _ hok
  obtain ⟨printed, hadds, hwrite, -⟩ := hwritten (List.cons_ne_nil _ _)
  refine ⟨s, e', hload, hpending, hok, of_decide_eq_true hasked, d, printed, ?_, hadds, hwrite⟩
  rw [hnames]
  decide

end EnvSchema
