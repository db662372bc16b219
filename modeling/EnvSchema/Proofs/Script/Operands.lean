import EnvSchema.Proofs.Script.Ahead
import EnvSchema.Script.Reader.Whole

/-!
# Expressions without operators

An expression is read through many readers, each of which looks for operators of its own. Where none
of them is ahead, the expression is what the innermost reader gives.

* `IsName` — a word that is a name wherever an expression may stand; `IsLooseName` — or at least
  outside of strict code and generators;
* `Starts`, `Stops` — what an expression starts with, and what stands behind it;
* `Read.unaryOf_gives`, `Read.binary_gives`, `Read.conditional_gives`, `Read.assignment_gives`,
  `Read.sequence_gives` — the readers of operators around an expression give the expression.
-/

namespace EnvSchema.Script

/-! ### Names -/

/-- The words with a meaning of their own, at least in some place. -/
def meaningWords : List String := keywords ++ literalWords ++ ["enum"]

/-- **A word that is a name** wherever an expression may stand. -/
structure IsName (w : String) : Prop where
  isWord : IsWord w
  isFree : w ∉ meaningWords

/-- The words that have no meaning of their own outside of strict code and generators. -/
def looseWords : List String := ["let", "yield"]

/-- **A word that is a name** wherever an expression may stand outside of strict code and
generators. -/
structure IsLooseName (w : String) : Prop where
  isWord : IsWord w
  isFree : w ∈ meaningWords → w ∈ looseWords

/-- A word that is a name everywhere is one there. -/
theorem IsName.isLooseName {w : String} (hw : IsName w) : IsLooseName w :=
  ⟨hw.isWord, fun h => absurd h hw.isFree⟩

/-- Whether a text is none of the names outside of strict code and generators, for it is no word or
has a meaning of its own there. -/
def isNoName (s : String) : Bool :=
  !(s.toList.head?.any Text.isIdentStart) || (meaningWords.contains s && !looseWords.contains s)

theorem IsLooseName.ne {w s : String} (hw : IsLooseName w) (hs : isNoName s = true) : w ≠ s := by
  rintro rfl
  rw [isNoName, Bool.or_eq_true] at hs
  rcases hs with hs | hs
  · obtain ⟨-, c, cs, htext, hstart⟩ := hw.isWord
    rw [htext, List.head?_cons, Option.any_some, hstart] at hs
    exact absurd hs (by decide)
  · obtain ⟨hmeaning, hloose⟩ := Bool.and_eq_true_iff.1 hs
    have hmem := hw.isFree (List.contains_iff_mem.1 hmeaning)
    rw [List.contains_iff_mem.2 hmem] at hloose
    exact nomatch hloose

/-! ### Before and behind an expression -/

/-- **An expression starts** with a bracket, a brace or a name. -/
inductive Starts : List Token → Prop
  | bracket (ts : List Token) : Starts (.mark "(" :: ts)
  | brace (ts : List Token) : Starts (.mark "\x7b" :: ts)
  | name {w : String} (hw : IsLooseName w) (ts : List Token) : Starts (.word w :: ts)

/-- **An expression stops** at the end, or before a bracket or brace that closes. -/
inductive Stops : List Token → Prop
  | nil : Stops []
  | bracket (ts : List Token) : Stops (.mark ")" :: ts)
  | brace (ts : List Token) : Stops (.mark "\x7d" :: ts)

/-- What is not ahead where an expression starts. -/
theorem Starts.unlike {ts : List Token} {s : String} (h : Starts ts)
    (hs : isNoName s = true ∧ s ≠ "(" ∧ s ≠ "\x7b") : Unlike ts s := by
  cases h with
  | bracket us => exact unlike_cons (beq_eq_false_iff_ne.2 hs.2.1.symm)
  | brace us => exact unlike_cons (beq_eq_false_iff_ne.2 hs.2.2.symm)
  | name hw us => exact unlike_cons (beq_eq_false_iff_ne.2 (hw.ne hs.1))

/-- What is not ahead where an expression stops. -/
theorem Stops.unlike {ts : List Token} {s : String} (h : Stops ts)
    (hs : s ≠ ")" ∧ s ≠ "\x7d") : Unlike ts s := by
  cases h with
  | nil => exact fun t ht => nomatch ht
  | bracket us => exact unlike_cons (beq_eq_false_iff_ne.2 hs.1.symm)
  | brace us => exact unlike_cons (beq_eq_false_iff_ne.2 hs.2.symm)

/-- **A phrase that no operator has made**: a name, a member, a call, an object, or an expression in
brackets. -/
def Node.IsOperand (n : Node) : Prop :=
  match n.form with
  | .ident .. | .member .. | .call .. | .object .. | .paren .. => True
  | _ => False

namespace Read

variable {g : Grammar} {post : Node → Prop} {ts rest : List Token}

/-- A phrase that no operator has made is no arrow function. -/
theorem isArrowHere_gives {n : Node} (h : n.IsOperand) : Gives (isArrowHere n) ts (· = false) ts := by
  unfold isArrowHere
  split
  · next heq =>
    rw [Node.IsOperand, heq] at h
    exact h.elim
  · exact .pure rfl

/-- Whatever a name is, it is not a given word that is none. -/
theorem false_of_word_eq {w s : String} (hw : IsLooseName w)
    (h : some (Token.word w) = some (.word s)) (hs : isNoName s = true) : False :=
  hw.ne hs (Token.word.inj (Option.some.inj h))

/-- Behind an expression no mark is ahead that changes what it stands for. -/
private theorem postfix_gives {n : Node} (hrest : Stops rest) (hn : post n) (ho : n.IsOperand) :
    Gives (do
      if ← isArrowHere n then return n
      if ← lineBreakBefore then return n
      if ← seesAny ["++", "--"] then
        checkTarget n false
        let op := if ← sees "++" then "++" else "--"
        bump
        nodeFrom n.lo (.update op false n)
      else return n) rest post rest := by
  have hmarks : ∀ s ∈ ["++", "--"], s ≠ ")" ∧ s ≠ "\x7d" := by decide
  refine (isArrowHere_gives ho).next (lineBreakBefore_gives.bind fun b _ => ?_)
  refine .ite (fun _ => .pure hn) fun _ => ?_
  exact (seesAny_no fun s hs => hrest.unlike (hmarks s hs)).next (.pure hn)

/-- **No mark with one operand stands before or behind an expression.** -/
theorem unaryOf_gives (hts : Starts ts) (hrest : Stops rest) (hpost : ∀ n, post n → n.IsOperand)
    (h : Gives g.leftHand ts post rest) : Gives (unaryOf g) ts post rest := by
  refine curPos_gives.any fun start => ?_
  have hangle : Gives (notM hasJsx <&&> hasTypes <&&> eat "<") ts (· = false) ts :=
    .and_true (hasJsx_gives.not) (hasTypes_gives.and_false)
  refine hangle.next (cur?_gives.next ?_)
  have hbehind := h.bind fun n hn => postfix_gives hrest hn (hpost n hn)
  cases hts with
  | bracket us => exact hbehind
  | brace us => exact hbehind
  | @name w hw us =>
    -- the words and marks with one operand are told apart, and no name is one of them
    rw [List.head?_cons]
    split
    · next heq => exact nomatch heq
    · next heq => exact nomatch heq
    · next heq => exact (false_of_word_eq hw heq (by decide)).elim
    · next heq => exact (false_of_word_eq hw heq (by decide)).elim
    · next heq => exact (false_of_word_eq hw heq (by decide)).elim
    · next heq => exact nomatch heq
    · next heq => exact nomatch heq
    · next heq => exact nomatch heq
    · next heq => exact nomatch heq
    · next heq => exact (false_of_word_eq hw heq (by decide)).elim
    · exact hbehind

/-- Behind an expression there is no operator. -/
private theorem operator?_gives (hrest : Stops rest) : Gives operator? rest (· = none) rest := by
  refine cur?_gives.next ?_
  cases hrest with
  | nil => exact .pure rfl
  | bracket us => exact .pure rfl
  | brace us => exact .pure rfl

/-- Without types, nothing stands behind an expression that gives it one. -/
private theorem typeOperators_gives (strength : Nat) {n : Node} :
    Gives (typeOperators g n strength) ts (· = n) ts := by
  refine .loop fun k => .iterate_done ?_
  refine .next (a := true) ?_ (.pure ⟨n, rfl, rfl⟩)
  exact .or_true hasTypes_gives.not

/-- **No mark with two operands stands behind an expression.** -/
theorem binary_gives (hrest : Stops rest) (hpost : ∀ n, post n → n.IsOperand)
    (h : Gives g.unary ts post rest) : Gives (binary g) ts post rest := by
  refine h.outcome.bind ?_
  rintro _ ⟨n, rfl, hn⟩
  refine .next (.pure rfl) ((isArrowHere_gives (hpost n hn)).next (.bind .get fun r hr => ?_))
  refine .loop fun k => .iterate_done ?_
  exact (typeOperators_gives 0).next ((operator?_gives hrest).next (.pure ⟨n, rfl, hn⟩))

/-- No question mark stands behind an expression. -/
theorem conditional_gives (hrest : Stops rest) (hpost : ∀ n, post n → n.IsOperand)
    (h : Gives g.unary ts post rest) : Gives (conditional g) ts post rest := by
  refine curPos_gives.any fun start => ?_
  refine (binary_gives hrest hpost h).bind fun n hn => ?_
  refine (isArrowHere_gives (hpost n hn)).next ?_
  exact (eat_no (hrest.unlike (by decide))).next (.pure hn)

/-- No mark of assignment stands behind an expression. -/
private theorem assignmentRest_gives (hrest : Stops rest) (start : Nat) {n : Node} :
    Gives (assignmentRest g start n) rest (· = n) rest := by
  refine cur?_gives.next ?_
  cases hrest with
  | nil => exact .pure rfl
  | bracket us => exact .pure rfl
  | brace us => exact .pure rfl

/-- The token that an expression starts with has been cut. -/
private theorem cur_starts (hts : Starts ts) : Gives cur ts (fun _ => True) ts := by
  cases hts with
  | bracket us => exact (cur_gives rfl).mono fun _ _ => trivial
  | brace us => exact (cur_gives rfl).mono fun _ _ => trivial
  | name hw us => exact (cur_gives rfl).mono fun _ _ => trivial

/-- Remembering where an arrow function may start leaves the tokens. -/
theorem arrowStart_gives (start : Option Nat) :
    Gives (modify fun r : Reader => { r with arrowStart := start }) ts (fun _ => True) ts :=
  .modify fun _ hr => ⟨⟨hr.ready.dialect, hr.ready.regexpAt, hr.ready.modes, hr.ready.size⟩, hr.loose,
    hr.tokens⟩

/-- **An expression is not given a value.** -/
theorem assignmentBase_gives (hts : Starts ts) (hrest : Stops rest)
    (hpost : ∀ n, post n → n.IsOperand) (h : Gives g.unary ts post rest) :
    Gives (assignmentBase g) ts post rest := by
  refine context_gives.bind fun c hc => ?_
  rw [hc.inGenerator]
  refine .next (.and_false (.pure rfl)) ?_
  refine (cur_starts hts).any fun t => curPos_gives.any fun start => ?_
  refine (arrowStart_gives _).any fun _ => ?_
  refine (conditional_gives hrest hpost h).bind fun n hn => ?_
  refine (isArrowHere_gives (hpost n hn)).next ?_
  -- an operand is no arrow, so it is either done or goes on with an assignment, and none is ahead
  have hdone : Gives (assignmentRest g start n) rest post rest :=
    (assignmentRest_gives hrest start).mono fun _ heq => heq ▸ hn
  rw [if_neg (by decide)]
  split
  · exact .pure hn
  · exact .pure hn
  · exact .pure hn
  · exact .pure hn
  · exact hdone

/-- **An expression up to a comma** is what stands between its operators, where there are none. -/
theorem assignment_gives (hts : Starts ts) (hrest : Stops rest)
    (hpost : ∀ n, post n → n.IsOperand) (h : Gives g.unary ts post rest) :
    Gives (assignment g) ts post rest := by
  refine .next (a := false) typed_no (.next (a := false) typed_no ?_)
  exact assignmentBase_gives hts hrest hpost h

/-- **No comma stands behind an expression.** -/
theorem sequence_gives (hrest : Stops rest) (h : Gives g.assign ts post rest) :
    Gives (sequence g) ts post rest := by
  refine curPos_gives.any fun start => h.bind fun n hn => ?_
  exact (sees_no (hrest.unlike (by decide))).next (.pure hn)

end Read

end EnvSchema.Script
