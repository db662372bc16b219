import EnvSchema.Proofs.Script.Spelling
import EnvSchema.Proofs.Steps

/-!
# Reading with known tokens ahead

A reader of phrases asks for the token ahead and the one after it, and takes tokens. If it is known
which tokens are still to come, it is known what each of these steps answers.

* `Reader.At` — the tokens that are still to come, those that are held included;
* `Gives` — a step answers as it is said, and takes the tokens before the ones that are left;
* `Gives.next`, `Gives.bind`, `Gives.within`, `Gives.loop` — steps in a row, in another place of the
  grammar, and in a loop;
* `Read.sees_no`, `Read.eat_yes`, … — what the smallest steps give.

Nothing is said of the places of tokens, so what is said of a phrase holds of its form only.
-/

namespace EnvSchema.Script

/-! ### Tokens ahead -/

/-- **A place of a script that is no module**, outside of what has rules of its own for names. -/
structure Context.Loose (c : Context) : Prop where
  isModule : c.isModule = false
  strict : c.strict = false
  inGenerator : c.inGenerator = false
  inClassField : c.inClassField = false

/-- **The tokens that are still to come.** The first ones may be held already. -/
structure Reader.At (r : Reader) (ts : List Token) : Prop where
  ready : r.Ready
  loose : r.context.Loose
  tokens : ∃ us, Spells r.rest us ∧
    r.current.toList.map (·.token) ++ (r.next.toList.map (·.token) ++ us) = ts

/-- **A word or mark is not ahead.** -/
def Unlike (ts : List Token) (s : String) : Prop := ∀ t ∈ ts.head?, t.isText s = false

/-- Only the token ahead counts. -/
theorem unlike_cons {t : Token} {ts : List Token} {s : String} (h : t.isText s = false) :
    Unlike (t :: ts) s := by
  rintro _ ht
  obtain rfl := Option.some.inj ht
  exact h

/-- **A step gives an answer** from a place where some tokens are to come, and leaves the last ones
of them. -/
def Gives {α : Type} (step : Read α) (ts : List Token) (post : α → Prop) (rest : List Token) : Prop :=
  ∀ r : Reader, r.At ts → Answers step r fun a r' => post a ∧ r'.At rest

namespace Gives

variable {α β γ : Type} {step : Read α} {ts mid rest : List Token} {post : α → Prop}

theorem pure {a : α} (h : post a) : Gives (pure a) ts post ts :=
  fun _ hr => .pure ⟨h, hr⟩

theorem mono {post' : α → Prop} (h : Gives step ts post rest) (hp : ∀ a, post a → post' a) :
    Gives step ts post' rest :=
  fun r hr => (h r hr).mono fun a _ ha => ⟨hp a ha.1, ha.2⟩

/-- **Steps in a row.** -/
theorem bind {next : α → Read β} {p : α → Prop} {q : β → Prop} {m : List Token}
    (h : Gives step ts p m) (hn : ∀ a, p a → Gives (next a) m q rest) :
    Gives (step >>= next) ts q rest :=
  fun r hr => (h r hr).bind fun a r' ha => hn a ha.1 r' ha.2

/-- A step of which it is known what it answers is followed by the next one. -/
theorem next {next : α → Read β} {q : β → Prop} {a : α} (h : Gives step ts (· = a) mid)
    (hn : Gives (next a) mid q rest) : Gives (step >>= next) ts q rest :=
  h.bind fun _ ha => ha ▸ hn

/-- A step whose answer does not matter is followed by the next one. -/
theorem any {next : α → Read β} {q : β → Prop} (h : Gives step ts (fun _ => True) mid)
    (hn : ∀ a, Gives (next a) mid q rest) : Gives (step >>= next) ts q rest :=
  h.bind fun a _ => hn a

/-- Asking for the state answers one with the tokens that are to come. -/
theorem get : Gives get ts (fun r => r.At ts) ts :=
  fun _ hr => ⟨_, _, rfl, hr, hr⟩

/-- A change of the state that keeps the tokens which are to come. -/
theorem modify {f : Reader → Reader} (h : ∀ r, r.At ts → (f r).At rest) :
    Gives (modify f) ts (fun _ => True) rest :=
  fun r hr => ⟨(), f r, rfl, trivial, h r hr⟩

/-- **A step in another place of the grammar** gives what it does, if that place is a loose one. -/
theorem within {change : Context → Context} (hc : ∀ c : Context, c.Loose → (change c).Loose)
    (h : Gives step ts post rest) : Gives (Read.within change step) ts post rest := by
  intro r hr
  obtain ⟨a, r', hs, ha, hr'⟩ := h { r with context := change r.context }
    ⟨⟨hr.ready.dialect, hr.ready.regexpAt, hr.ready.modes, hr.ready.size⟩, hc _ hr.loose, hr.tokens⟩
  refine ⟨a, { r' with context := r.context }, ?_, ha, ?_, hr.loose, hr'.tokens⟩
  · rw [Read.within, hs]
  · exact ⟨hr'.ready.dialect, hr'.ready.regexpAt, hr'.ready.modes, hr'.ready.size⟩

/-- A step that gives an answer has it as an outcome. -/
theorem outcome (h : Gives step ts post rest) :
    Gives (Read.outcome step) ts (fun o => ∃ a, o = .ok a ∧ post a) rest := by
  intro r hr
  obtain ⟨a, r', hs, ha, hr'⟩ := h r hr
  exact ⟨_, r', Read.outcome_of_ok hs, ⟨a, rfl, ha⟩, hr'⟩

/-! ### Conditions -/

variable {x y : Read Bool} {b : Bool} {q : Bool → Prop}

theorem and_false (hx : Gives x ts (· = false) rest) : Gives (x <&&> y) ts (· = false) rest :=
  hx.next (.pure rfl)

theorem and_true (hx : Gives x ts (· = true) mid) (hy : Gives y mid q rest) :
    Gives (x <&&> y) ts q rest :=
  hx.next hy

theorem or_true (hx : Gives x ts (· = true) rest) : Gives (x <||> y) ts (· = true) rest :=
  hx.next (.pure rfl)

theorem or_false (hx : Gives x ts (· = false) mid) (hy : Gives y mid q rest) :
    Gives (x <||> y) ts q rest :=
  hx.next hy

theorem not (hx : Gives x ts (· = b) rest) : Gives (notM x) ts (· = !b) rest :=
  hx.next (.pure rfl)

/-- Two conditions do not hold if the second one does not. -/
theorem and_no (hx : Gives x ts (fun _ => True) ts) (hy : Gives y ts (· = false) ts) :
    Gives (x <&&> y) ts (· = false) ts := by
  refine hx.any fun b => ?_
  cases b with
  | true => exact hy
  | false => exact .pure rfl

theorem not_any (hx : Gives x ts (fun _ => True) rest) : Gives (notM x) ts (fun _ => True) rest :=
  hx.any fun _ => .pure trivial

/-- Of two steps, the one that a condition chooses. -/
theorem ite {p : Prop} [Decidable p] {yes no : Read α} (hyes : p → Gives yes ts post rest)
    (hno : ¬p → Gives no ts post rest) : Gives (if p then yes else no) ts post rest := by
  split
  · next h => exact hyes h
  · next h => exact hno h

/-! ### Loops -/

variable {body : β → Read (β ⊕ γ)} {a : β} {n : Nat} {done : γ → Prop}

/-- A loop answers when its step does. -/
theorem iterate_done (h : Gives (body a) ts (fun o => ∃ c, o = .inr c ∧ done c) rest) :
    Gives (Read.iterate body (n + 1) a) ts done rest := by
  rw [Read.iterate]
  refine h.bind ?_
  rintro _ ⟨c, rfl, hc⟩
  exact .pure hc

/-- A loop goes on where its step does not answer. -/
theorem iterate_more {p : β → Prop} {m : List Token}
    (h : Gives (body a) ts (fun o => ∃ b, o = .inl b ∧ p b) m)
    (hn : ∀ b, p b → Gives (Read.iterate body n b) m done rest) :
    Gives (Read.iterate body (n + 1) a) ts done rest := by
  rw [Read.iterate]
  refine h.bind ?_
  rintro _ ⟨b, rfl, hb⟩
  exact hn b hb

/-- **A loop repeats its step**, eight times at least. -/
theorem loop (h : ∀ n, Gives (Read.iterate body (n + 8) a) ts done rest) :
    Gives (Read.loop a body) ts done rest :=
  get.bind fun r _ => h r.size

end Gives

namespace Read

variable {α : Type} {t : Token} {ts : List Token} {s : String}

/-! ### The tokens held -/

/-- A text that spells no tokens is empty. -/
private theorem eq_nil_of_spells {cs : List Char} (h : Spells cs []) : cs = [] := by
  cases h
  rfl

/-- **The next token** is the first one of those which the text ahead spells. -/
private theorem lexeme_at {r : Reader} {us : List Token} (hr : r.Ready) (hus : Spells r.rest us) :
    Answers lexeme r fun l r' => l.map (·.token) = us.head? ∧ r'.Ready ∧ Spells r'.rest us.tail ∧
      r.Alike r' := by
  -- a text that spells no token is at its end
  cases us with
  | nil =>
    refine (lexeme_end hr (eq_nil_of_spells hus)).mono ?_
    rintro _ r' ⟨rfl, hr', hrest, ha⟩
    refine ⟨rfl, hr', ?_, ha⟩
    rw [hrest]
    exact .nil
  | cons t us =>
    refine (lexeme_spells hr hus).mono ?_
    rintro _ r' ⟨⟨l, rfl, rfl⟩, hr', hrest, ha⟩
    exact ⟨rfl, hr', hrest, ha⟩

/-- A token that is held is the first one of those which are to come. -/
private theorem held_append_tail {l : Option Lexeme} (h : l.map (·.token) = ts.head?) :
    l.toList.map (·.token) ++ ts.tail = ts := by
  cases ts with
  | nil =>
    rw [Option.map_eq_none_iff.1 h]
    rfl
  | cons t ts =>
    obtain ⟨l', rfl, rfl⟩ := Option.map_eq_some_iff.1 h
    rfl

/-- The token ahead is held once it has been looked at. -/
private theorem ahead_at {r : Reader} (hr : r.At ts) :
    Answers ahead? r fun l r' => l.map (·.token) = ts.head? ∧ r'.current = l ∧ r'.At ts := by
  obtain ⟨us, hus, hts⟩ := hr.tokens
  refine .bind_eq rfl ?_
  -- it is held already, or was looked at after the one before, or is read now
  cases hc : r.current with
  | some l =>
    refine .pure ⟨?_, hc, hr⟩
    rw [← hts, hc]
    rfl
  | none =>
    dsimp only
    cases hn : r.next with
    | some l =>
      rw [hc, hn] at hts
      refine .bind_eq rfl (.pure ⟨?_, rfl, ?_, hr.loose, us, hus, hts⟩)
      · rw [← hts]
        rfl
      · exact ⟨hr.ready.dialect, hr.ready.regexpAt, hr.ready.modes, hr.ready.size⟩
    | none =>
      rw [hc, hn] at hts
      obtain rfl : us = ts := hts
      refine (lexeme_at hr.ready hus).bind ?_
      rintro l r' ⟨hl, hr', hrest, ha⟩
      refine .bind_eq rfl (.pure ⟨hl, rfl, ?_, ?_, us.tail, hrest, ?_⟩)
      · exact ⟨hr'.dialect, hr'.regexpAt, hr'.modes, hr'.size⟩
      · exact ha.context ▸ hr.loose
      · change l.toList.map (·.token) ++ (r'.next.toList.map (·.token) ++ us.tail) = us
        rw [ha.next, hn]
        exact held_append_tail hl

/-- **The token ahead**, with its place. -/
theorem ahead_gives : Gives ahead? ts (fun l => l.map (·.token) = ts.head?) ts :=
  fun _ hr => (ahead_at hr).mono fun _ _ h => ⟨h.1, h.2.2⟩

/-- **The token after the one ahead**, with its place. -/
theorem peekLexeme_gives : Gives peekLexeme? ts (fun l => l.map (·.token) = ts.tail.head?) ts := by
  intro r hr
  refine (ahead_at hr).bind ?_
  rintro l r₁ ⟨hl, hcur, hr₁⟩
  obtain ⟨us, hus, hts⟩ := hr₁.tokens
  rw [hcur] at hts
  have htail : r₁.next.toList.map (·.token) ++ us = ts.tail := by
    cases ts with
    | nil => simpa using (List.append_eq_nil_iff.1 hts).2
    | cons t ts =>
      obtain ⟨l', rfl, rfl⟩ := Option.map_eq_some_iff.1 hl
      exact (List.cons.inj hts).2
  refine .bind_eq rfl ?_
  -- it is held already, or it is the next one that is cut off the text
  cases hn : r₁.next with
  | some l' =>
    refine .pure ⟨?_, hr₁⟩
    rw [← htail, hn]
    rfl
  | none =>
    have hus' : us = ts.tail := by rwa [hn] at htail
    subst hus'
    refine (lexeme_at hr₁.ready hus).bind ?_
    rintro l' r' ⟨hl', hr', hrest, ha⟩
    refine .bind_eq rfl (.pure ⟨hl', ?_, ?_, ts.tail.tail, hrest, ?_⟩)
    · exact ⟨hr'.dialect, hr'.regexpAt, hr'.modes, hr'.size⟩
    · exact ha.context ▸ hr₁.loose
    · change r'.current.toList.map (·.token) ++ (l'.toList.map (·.token) ++ ts.tail.tail) = ts
      rw [ha.current, hcur, held_append_tail hl']
      rwa [hn] at hts

/-- **The token ahead is taken.** -/
theorem bump_gives : Gives bump (t :: ts) (fun _ => True) ts := by
  intro r hr
  refine (ahead_at hr).bind ?_
  rintro l r₁ ⟨hl, hcur, hr₁⟩
  obtain ⟨l', rfl, rfl⟩ := Option.map_eq_some_iff.1 hl
  obtain ⟨us, hus, hts⟩ := hr₁.tokens
  rw [hcur] at hts
  refine ⟨(), _, rfl, trivial, ?_⟩
  dsimp only
  rw [hcur]
  refine ⟨?_, hr₁.loose, us, hus, (List.cons.inj hts).2⟩
  exact ⟨hr₁.ready.dialect, hr₁.ready.regexpAt, hr₁.ready.modes, hr₁.ready.size⟩

/-- The token ahead. -/
theorem cur?_gives : Gives cur? ts (· = ts.head?) ts :=
  ahead_gives.bind fun _ hl => .pure hl

/-- The token after the one ahead. -/
theorem peek?_gives : Gives peek? ts (· = ts.tail.head?) ts :=
  peekLexeme_gives.bind fun _ hl => .pure hl

/-- The token ahead, if there is one that could be cut. -/
theorem cur_gives (h : t.isFaulty = false) : Gives cur (t :: ts) (· = t) (t :: ts) := by
  refine cur?_gives.next ?_
  cases t with
  | faulty d => exact absurd h Bool.noConfusion
  | _ => exact .pure rfl

/-! ### Places -/

theorem curPos_gives : Gives curPos ts (fun _ => True) ts := by
  refine ahead_gives.bind fun l _ => ?_
  cases l with
  | some l => exact .pure trivial
  | none => exact .bind .get fun r _ => .pure trivial

theorem lastPos_gives : Gives lastPos ts (fun _ => True) ts :=
  .bind .get fun _ _ => .pure trivial

theorem spanFrom_gives (start : Nat) : Gives (spanFrom start) ts (fun _ => True) ts :=
  lastPos_gives.any fun _ => .pure trivial

/-- A node has the form that it is made with. -/
theorem nodeFrom_gives (start : Nat) (form : Form Node) :
    Gives (nodeFrom start form) ts (fun n => n.form = form) ts :=
  (spanFrom_gives start).any fun _ => .pure rfl

theorem lineBreakBefore_gives : Gives lineBreakBefore ts (fun _ => True) ts :=
  ahead_gives.bind fun _ _ => .pure trivial

/-! ### What is ahead -/

/-- What is asked of the token ahead. -/
theorem seesToken_gives (p : Token → Bool) :
    Gives (seesToken p) ts (· = (ts.head?.map p).getD false) ts :=
  cur?_gives.bind fun _ h => .pure (by rw [h])

/-- What is asked of the token after the one ahead. -/
theorem seesNextToken_gives (p : Token → Bool) :
    Gives (seesNextToken p) ts (· = (ts.tail.head?.map p).getD false) ts :=
  peek?_gives.bind fun _ h => .pure (by rw [h])

/-- No token ahead satisfies a condition. -/
theorem seesToken_no {p : Token → Bool} (h : ∀ t ∈ ts.head?, p t = false) :
    Gives (seesToken p) ts (· = false) ts := by
  refine (seesToken_gives p).mono ?_
  rintro _ rfl
  cases ts with
  | nil => rfl
  | cons t ts => exact h t rfl

theorem sees_no (h : Unlike ts s) : Gives (sees s) ts (· = false) ts := seesToken_no h

theorem sees_yes (h : t.isText s = true) : Gives (sees s) (t :: ts) (· = true) (t :: ts) := by
  refine (seesToken_gives _).mono ?_
  rintro _ rfl
  exact h

theorem seesAny_no {l : List String} (h : ∀ s ∈ l, Unlike ts s) :
    Gives (seesAny l) ts (· = false) ts :=
  seesToken_no fun t ht => List.any_eq_false.2 fun s hs => by simp [h s hs t ht]

theorem seesNext_no (h : Unlike ts s) : Gives (seesNext s) (t :: ts) (· = false) (t :: ts) := by
  refine (seesNextToken_gives _).mono ?_
  rintro _ rfl
  cases ts with
  | nil => rfl
  | cons t ts => exact h t rfl

/-! ### Taking tokens -/

theorem eat_no (h : Unlike ts s) : Gives (eat s) ts (· = false) ts :=
  (sees_no h).next (.pure rfl)

theorem eat_yes (h : t.isText s = true) : Gives (eat s) (t :: ts) (· = true) ts :=
  (sees_yes h).next (bump_gives.any fun _ => .pure rfl)

theorem expect_yes (h : t.isText s = true) : Gives (expect s) (t :: ts) (fun _ => True) ts :=
  (eat_yes h).next (.pure trivial)

/-! ### What is known of the place -/

/-- The rules of the place are loose. -/
theorem context_gives : Gives context ts Context.Loose ts :=
  .bind .get fun _ hr => .pure hr.loose

theorem hasTypes_gives : Gives hasTypes ts (· = false) ts :=
  .bind .get fun _ hr => .pure (by rw [hr.ready.dialect]; rfl)

theorem hasJsx_gives : Gives hasJsx ts (· = false) ts :=
  .bind .get fun _ hr => .pure (by rw [hr.ready.dialect]; rfl)

/-- Nothing is done if there have to be types. -/
theorem typed_no {y : Read Bool} : Gives (hasTypes <&&> y) ts (· = false) ts :=
  hasTypes_gives.and_false

end Read

end EnvSchema.Script
