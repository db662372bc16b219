import EnvSchema.Proofs.Dialogue
import EnvSchema.Proofs.Schema.Adding

/-!
# What comes of offering names

A field is added for a name if its user gives it a type that has a call, and the schema does not
declare the name yet. So what the offers did to the schema can be told from the replies:

* `Offered` — what is asked, what is replied and what the schema is after the offer of one name;
* `OfferedAll` — the same for names that are offered one after the other, by their dialogue;
* `offer_eq_ok`, `offerAll_eq_ok` — offers that do not fail go like this.

The names of the second kind are different from each other, as the members of a set are: then what is
declared in between says nothing about the names that are still to come.
-/

namespace EnvSchema

variable {p : Prompter} {settings : SchemaSettings} {name : String} {names added : List String}
  {reply : Reply} {isAdded : Bool} {e e' : Editing}

/-! ### One name -/

/-- **What comes of the offer of a name**, from one state to another. -/
structure Offered (p : Prompter) (settings : SchemaSettings) (name : String) (e : Editing)
    (reply : Reply) (isAdded : Bool) (e' : Editing) : Prop where
  replied : p.reply e.session.asked name = .ok reply
  asked : e'.session.asked = e.session.asked ++ reply.questions name
  tree : e'.session.tree = e.session.tree
  /-- A field is added if one comes of the reply and the name was not declared. -/
  isAdded_iff : isAdded = true ↔ reply.adds = true ∧ name ∉ e.schema.declared
  schema : isAdded = false ∧ e'.schema = e.schema ∨ isAdded = true ∧ ∃ type, reply = .typed type ∧
    e.schema.Gets name type settings e'.schema

/-- **An offer that does not fail** is answered, and the field of the name is added or not. -/
theorem offer_eq_ok (h : offer p settings name e = .ok isAdded e') :
    ∃ reply, Offered p settings name e reply isAdded e' := by
  obtain ⟨wanted, e₁, h₁, h⟩ := bind_eq_ok_iff.1 h
  obtain ⟨s₁, hs₁, rfl⟩ := Edit.lift_eq_ok_iff.1 h₁
  obtain ⟨hconfirm, rfl⟩ := Run.confirm_eq_ok_iff.1 hs₁
  -- a name that is not wanted is declined; one that is wanted is asked for its type
  cases wanted with
  | false =>
    cases h
    refine ⟨.declined, Prompter.reply_declined hconfirm, rfl, rfl, ?_, .inl ⟨rfl, rfl⟩⟩
    exact iff_of_false Bool.false_ne_true fun hadds => Bool.false_ne_true hadds.1
  | true =>
    obtain ⟨type, e₂, h₂, h⟩ := bind_eq_ok_iff.1 h
    obtain ⟨s₂, hs₂, rfl⟩ := Edit.lift_eq_ok_iff.1 h₂
    obtain ⟨hpick, rfl⟩ := Run.pick_eq_ok_iff.1 hs₂
    have hreply : p.reply e.session.asked name = .ok (.typed type) :=
      Prompter.reply_typed hconfirm hpick
    have hasked : e.session.asked ++ [.confirm name] ++ [.pick name (ranked name)] =
        e.session.asked ++ (Reply.typed type).questions name := List.append_assoc ..
    have hadds : (Reply.typed type).adds = true ↔ type ≠ .other := decide_eq_true_iff
    refine ⟨.typed type, ?_⟩
    by_cases hother : type = .other
    · -- the user is told to add the field by hand
      rw [if_pos hother] at h
      cases h
      refine ⟨hreply, hasked, rfl, ?_, .inl ⟨rfl, rfl⟩⟩
      exact iff_of_false Bool.false_ne_true fun hnot => hadds.1 hnot.1 hother
    · rw [if_neg hother] at h
      obtain ⟨s', hadd, rfl⟩ := Edit.add_eq_ok_iff.1 h
      refine ⟨hreply, hasked, rfl, ?_, ?_⟩
      · -- the name may be declared already, and then nothing is added all the same
        rw [Schema.isAdded_iff hadd, hadds, and_comm]
      · rcases Schema.add_cases hadd with ⟨rfl, rfl⟩ | ⟨rfl, hgets⟩
        · exact .inl ⟨rfl, rfl⟩
        · exact .inr ⟨rfl, type, rfl, hgets⟩

namespace Offered

variable (h : Offered p settings name e reply isAdded e')
include h

/-- A name is declared after its offer if it was before or has been added. -/
theorem declared (x : String) :
    x ∈ e'.schema.declared ↔ x ∈ e.schema.declared ∨ isAdded = true ∧ x = name := by
  rcases h.schema with ⟨rfl, hsame⟩ | ⟨rfl, type, -, hgets⟩
  · simp [hsame]
  · simp [hgets.declared, or_comm]

/-- A name that has been added waits to be written. -/
theorem pending : e'.schema.pending = e.schema.pending ++ if isAdded then [name] else [] := by
  rcases h.schema with ⟨rfl, hsame⟩ | ⟨rfl, type, -, hgets⟩
  · simp [hsame]
  · simp [hgets.pending]

end Offered

/-! ### Several names -/

/-- **What comes of the offers of names**, one after the other. -/
structure OfferedAll (p : Prompter) (names : List String) (e : Editing) (d : Dialogue)
    (added : List String) (e' : Editing) : Prop where
  replied : p.dialogue e.session.asked names = .ok d
  asked : e'.session.asked = e.session.asked ++ d.questions
  /-- What is added was chosen and had not been declared. -/
  added_eq : added = d.chosen.filter fun n => n ∉ e.schema.declared
  declared : ∀ x, x ∈ e'.schema.declared ↔ x ∈ e.schema.declared ∨ x ∈ added

namespace OfferedAll

/-- Where no name is offered, nothing comes of it. -/
theorem nil (p : Prompter) (e : Editing) : OfferedAll p [] e [] [] e where
  replied := rfl
  asked := (List.append_nil _).symm
  added_eq := rfl
  declared x := by simp

/-- The offers of names start with that of the first one. -/
theorem cons {d : Dialogue} {e₁ : Editing} (hn : name ∉ names)
    (h : Offered p settings name e reply isAdded e₁) (hs : OfferedAll p names e₁ d added e') :
    OfferedAll p (name :: names) e ((name, reply) :: d)
      (if isAdded then name :: added else added) e' where
  replied := by
    have hrest := hs.replied
    rw [h.asked] at hrest
    exact except_bind_eq_ok_iff.2 ⟨reply, h.replied, except_bind_eq_ok_iff.2 ⟨d, hrest, rfl⟩⟩
  asked := by rw [hs.asked, h.asked, Dialogue.questions_cons, List.append_assoc]
  added_eq := by
    -- what is declared meanwhile is none of the names that are chosen afterwards
    have hrest : added = d.chosen.filter fun n => n ∉ e.schema.declared := by
      rw [hs.added_eq]
      refine List.filter_congr fun n hmem => decide_eq_decide.2 ?_
      have hne : n ≠ name := by
        rintro rfl
        have hoffered := (Dialogue.chosen_sublist d).subset hmem
        rw [Prompter.names_of_dialogue hs.replied] at hoffered
        exact hn hoffered
      rw [h.declared, not_or, not_and]
      exact and_iff_left fun _ => hne
    -- the first name goes before the others just if a field came of its reply and it was not declared
    have hiff := h.isAdded_iff
    rw [Dialogue.chosen_cons, hrest]
    cases hadds : reply.adds with
    | false =>
      rw [hadds] at hiff
      obtain rfl : isAdded = false := by simpa using hiff
      rfl
    | true =>
      by_cases hd : name ∈ e.schema.declared
      · obtain rfl : isAdded = false := by simpa [hadds, hd] using hiff
        simp [hd]
      · obtain rfl : isAdded = true := by simpa [hadds, hd] using hiff
        simp [hd]
  declared x := by
    rw [hs.declared, h.declared]
    cases isAdded <;> simp [or_assoc]

/-- What comes of the offers hangs on what was asked and what was declared before. -/
theorem from_eq {d : Dialogue} {e₀ : Editing} (h : OfferedAll p names e d added e')
    (hasked : e.session.asked = e₀.session.asked) (hdeclared : e.schema.declared = e₀.schema.declared) :
    OfferedAll p names e₀ d added e' where
  replied := hasked ▸ h.replied
  asked := hasked ▸ h.asked
  added_eq := hdeclared ▸ h.added_eq
  declared := hdeclared ▸ h.declared

/-- It shows in what was asked and what is declared afterwards. -/
theorem to_eq {d : Dialogue} {e₁ : Editing} (h : OfferedAll p names e d added e')
    (hasked : e₁.session.asked = e'.session.asked) (hdeclared : e₁.schema.declared = e'.schema.declared) :
    OfferedAll p names e d added e₁ where
  replied := h.replied
  asked := hasked.trans h.asked
  added_eq := h.added_eq
  declared := hdeclared ▸ h.declared

variable {d : Dialogue} (h : OfferedAll p names e d added e')
include h

/-- The names that are offered are the given ones. -/
theorem names_eq : d.map (·.1) = names := Prompter.names_of_dialogue h.replied

/-- What is added was offered, in the same order. -/
theorem added_sublist : added.Sublist names := by
  rw [h.added_eq, ← h.names_eq]
  exact List.filter_sublist.trans (Dialogue.chosen_sublist d)

/-- What is added had not been declared. -/
theorem not_declared {x : String} (hx : x ∈ added) : x ∉ e.schema.declared := by
  rw [h.added_eq] at hx
  exact decide_eq_true_iff.1 (List.mem_filter.1 hx).2

/-- If none of the names had been declared, all that were chosen are added. -/
theorem added_eq_chosen (hnew : ∀ x ∈ names, x ∉ e.schema.declared) : added = d.chosen := by
  rw [h.added_eq, List.filter_eq_self]
  intro x hx
  refine decide_eq_true_iff.2 (hnew x ?_)
  rw [← h.names_eq]
  exact (Dialogue.chosen_sublist d).subset hx

/-- A name that is still undeclared was declined, or is left to the user. -/
theorem reply_of_undeclared {x : String} (hx : x ∈ names) (hnot : x ∉ e'.schema.declared) :
    (x, Reply.declined) ∈ d ∨ (x, Reply.typed .other) ∈ d := by
  rw [← h.names_eq] at hx
  obtain ⟨⟨y, reply⟩, hmem, rfl⟩ := List.mem_map.1 hx
  rw [h.declared, not_or] at hnot
  -- had a field come of the reply, then the name would be declared now
  have hadds : reply.adds ≠ true := by
    intro hadds
    refine hnot.2 ?_
    rw [h.added_eq]
    exact List.mem_filter.2 ⟨Dialogue.mem_chosen.2 ⟨reply, hmem, hadds⟩, decide_eq_true hnot.1⟩
  cases reply with
  | declined => exact .inl hmem
  | typed type =>
    obtain rfl : type = .other := by simpa [Reply.adds] using hadds
    exact .inr hmem

end OfferedAll

/-- **Offers of different names that do not fail** go by their dialogue. -/
theorem offerAll_eq_ok (hnames : names.Nodup) (h : offerAll p settings names e = .ok added e') :
    ∃ d, OfferedAll p names e d added e' := by
  induction names generalizing e added with
  | nil =>
    cases h
    exact ⟨[], .nil _ _⟩
  | cons n ns ih =>
    obtain ⟨hn, hns⟩ := List.nodup_cons.1 hnames
    obtain ⟨isAdded, e₁, h₁, h⟩ := bind_eq_ok_iff.1 h
    obtain ⟨rest, e₂, h₂, h⟩ := bind_eq_ok_iff.1 h
    cases h
    obtain ⟨reply, hoffered⟩ := offer_eq_ok h₁
    obtain ⟨d, hall⟩ := ih hns h₂
    exact ⟨(n, reply) :: d, .cons hn hoffered hall⟩

end EnvSchema
