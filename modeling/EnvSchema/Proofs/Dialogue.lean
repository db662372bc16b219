import EnvSchema.Proofs.Steps
import EnvSchema.Remediation

/-!
# What a user replies

Names are offered one after the other, and what is asked next hangs on what was answered before. Here
the user is followed without a schema: from the questions that have been asked so far and the names
that are offered it is told what the user replies to each of them.

* `Reply` — what is replied to an offer, and `Reply.questions`, what was asked for that;
* `Prompter.reply`, `Prompter.dialogue` — the replies of a user;
* `Dialogue.questions`, `Dialogue.chosen` — what has been asked, and which names are to be added;
* `Prompter.names_of_dialogue`, `Dialogue.offered_questions` — every name is offered once, in the
  order of the names.
-/

namespace EnvSchema

/-- The name that a question offers, if it is the first one about the name. -/
def Question.offered? : Question → Option String
  | confirm name => some name
  | pick _ _ => none

/-- **What is replied when a name is offered.** -/
inductive Reply where
  /-- The name is not to be added. -/
  | declined
  /-- It is to be added with a type. -/
  | typed (type : FieldType)
  deriving Repr, DecidableEq

namespace Reply

/-- Whether a field comes of a reply. A type without a call is left to the user. -/
def adds : Reply → Bool
  | declined => false
  | typed type => type ≠ .other

/-- **What was asked** before a reply was known. -/
def questions (name : String) : Reply → List Question
  | declined => [.confirm name]
  | typed _ => [.confirm name, .pick name (ranked name)]

/-- A name is offered once. -/
theorem offered_questions (name : String) (reply : Reply) :
    (reply.questions name).filterMap Question.offered? = [name] := by
  cases reply <;> rfl

end Reply

/-- **What a user replies to the offer of a name**, behind the questions that were asked before. -/
def Prompter.reply (p : Prompter) (asked : List Question) (name : String) : Except Refusal Reply := do
  if ← p.confirm asked name then
    return .typed (← p.pick (asked ++ [.confirm name]) name (ranked name))
  else return .declined

section

variable {p : Prompter} {asked : List Question} {name : String}

/-- Who does not want a name declines it. -/
theorem Prompter.reply_declined (h : p.confirm asked name = .ok false) :
    p.reply asked name = .ok .declined :=
  except_bind_eq_ok_iff.2 ⟨false, h, rfl⟩

/-- Who wants a name is asked for its type. -/
theorem Prompter.reply_typed {type : FieldType} (h : p.confirm asked name = .ok true)
    (hpick : p.pick (asked ++ [.confirm name]) name (ranked name) = .ok type) :
    p.reply asked name = .ok (.typed type) :=
  except_bind_eq_ok_iff.2 ⟨true, h, except_bind_eq_ok_iff.2 ⟨type, hpick, rfl⟩⟩

/-- A reply is known by what is confirmed and picked. -/
theorem Prompter.reply_eq_ok_iff {reply : Reply} : p.reply asked name = .ok reply ↔
    reply = .declined ∧ p.confirm asked name = .ok false ∨
      ∃ type, reply = .typed type ∧ p.confirm asked name = .ok true ∧
        p.pick (asked ++ [.confirm name]) name (ranked name) = .ok type := by
  constructor
  · intro h
    obtain ⟨wanted, hconfirm, h⟩ := except_bind_eq_ok_iff.1 h
    -- the second question is asked only if the first one is confirmed
    cases wanted with
    | false =>
      cases h
      exact .inl ⟨rfl, hconfirm⟩
    | true =>
      obtain ⟨type, hpick, h⟩ := except_bind_eq_ok_iff.1 h
      cases h
      exact .inr ⟨type, rfl, hconfirm, hpick⟩
  · rintro (⟨rfl, hconfirm⟩ | ⟨type, rfl, hconfirm, hpick⟩)
    · exact Prompter.reply_declined hconfirm
    · exact Prompter.reply_typed hconfirm hpick

end

/-- Names that have been offered, with what was replied. -/
abbrev Dialogue := List (String × Reply)

namespace Dialogue

/-- What was asked. -/
def questions (d : Dialogue) : List Question := d.flatMap fun entry => entry.2.questions entry.1

/-- **The names that a field comes of.** -/
def chosen (d : Dialogue) : List String := (d.filter fun entry => entry.2.adds).map (·.1)

variable {d : Dialogue} {name : String}

theorem questions_cons (entry : String × Reply) (d : Dialogue) :
    questions (entry :: d) = entry.2.questions entry.1 ++ questions d := List.flatMap_cons

theorem chosen_cons (name : String) (reply : Reply) (d : Dialogue) :
    chosen ((name, reply) :: d) = if reply.adds then name :: chosen d else chosen d := by
  cases h : reply.adds <;> simp [chosen, h]

theorem mem_chosen : name ∈ chosen d ↔ ∃ reply, (name, reply) ∈ d ∧ reply.adds = true := by
  simp [chosen]

/-- What is chosen was offered, in the same order. -/
theorem chosen_sublist (d : Dialogue) : (chosen d).Sublist (d.map (·.1)) :=
  List.filter_sublist.map _

/-- **A dialogue offers its names**, one after the other. -/
theorem offered_questions (d : Dialogue) :
    (questions d).filterMap Question.offered? = d.map (·.1) := by
  induction d with
  | nil => rfl
  | cons entry d ih =>
    rw [questions_cons, List.filterMap_append, Reply.offered_questions, ih, List.map_cons,
      List.singleton_append]

end Dialogue

/-- **What a user replies to the offers of names**, one after the other. -/
def Prompter.dialogue (p : Prompter) (asked : List Question) : List String → Except Refusal Dialogue
  | [] => return []
  | n :: ns => do
    let reply ← p.reply asked n
    return (n, reply) :: (← p.dialogue (asked ++ reply.questions n) ns)

/-- **Every name is offered once**, in the order of the names. -/
theorem Prompter.names_of_dialogue {p : Prompter} {asked : List Question} {names : List String}
    {d : Dialogue} (h : p.dialogue asked names = .ok d) : d.map (·.1) = names := by
  induction names generalizing asked d with
  | nil =>
    cases h
    rfl
  | cons n ns ih =>
    -- the questions before a name do not matter for which names there are
    obtain ⟨reply, -, h⟩ := except_bind_eq_ok_iff.1 h
    obtain ⟨rest, hrest, h⟩ := except_bind_eq_ok_iff.1 h
    cases h
    rw [List.map_cons, ih hrest]

end EnvSchema
