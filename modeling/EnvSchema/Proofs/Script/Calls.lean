import EnvSchema.Proofs.Script.Change
import EnvSchema.Proofs.Script.Operands

/-!
# Calls of a library

Members and calls are read one after the other behind what an expression starts with: first the
members alone, for there might be the word `new` before them, and then what follows the first call.

* `Node.IsQuiet` — a phrase that declares no key, such as a name and the calls of its members;
* `Node.IsCalls` — a name with calls of its members, one after the other;
* `Read.subscript_stop`, `Read.subscript_member`, `Read.subscript_call` — what one step behind an
  expression reads;
* `Read.memberOrNewOf_gives`, `Read.leftHandOf_plain`, `Read.leftHandOf_call` — whole expressions.
-/

namespace EnvSchema.Script

/-! ### Phrases that declare nothing -/

namespace Node

/-- **A phrase without operators that declares no key.** -/
structure IsQuiet (n : Node) : Prop where
  isOperand : n.IsOperand
  declares : ∀ x, ¬n.Declares x

variable {n object callee key : Node} {w : String} {isOptional : Bool}

/-- A phrase that is no property declares no key, if none of its parts does. -/
private theorem isQuiet_of_parts (ho : n.IsOperand) (hkey : n.key? = none)
    (hparts : ∀ p ∈ n.parts, ∀ x, ¬p.Declares x) : n.IsQuiet where
  isOperand := ho
  declares x hx := by
    rcases declares_iff.1 hx with hx | ⟨p, hp, hx⟩
    · rw [hkey] at hx
      exact nomatch hx
    · exact hparts p hp x hx

/-- A name declares no key. -/
theorem isQuiet_of_ident (h : n.form = .ident w isOptional) : n.IsQuiet := by
  refine isQuiet_of_parts ?_ ?_ ?_
  · rw [IsOperand, h]
    trivial
  · rw [key?, h]
  · rw [parts, h]
    exact fun p hp => absurd hp List.not_mem_nil

/-- A member declares no key, if what it is a member of does not. -/
theorem IsQuiet.member (ho : object.IsQuiet) (hk : key.IsQuiet) (h : n.form = .member object key) :
    n.IsQuiet := by
  refine isQuiet_of_parts ?_ ?_ ?_
  · rw [IsOperand, h]
    trivial
  · rw [key?, h]
  · rw [parts, h]
    intro p hp
    rcases List.mem_cons.1 hp with rfl | hp
    · exact ho.declares
    · rw [List.mem_singleton.1 hp]
      exact hk.declares

/-- A call without arguments declares no key, if what is called does not. -/
theorem IsQuiet.call (hc : callee.IsQuiet) (h : n.form = .call callee [] none) : n.IsQuiet := by
  refine isQuiet_of_parts ?_ ?_ ?_
  · rw [IsOperand, h]
    trivial
  · rw [key?, h]
  · rw [parts, h]
    intro p hp
    rw [List.mem_singleton.1 hp]
    exact hc.declares

/-- **Calls of the members of a name**, one after the other: `lib.a().b()` and the like. -/
inductive IsCalls (lib : String) : List String → Node → Prop
  | name {n : Node} (h : n.form = .ident lib false) : IsCalls lib [] n
  | call {ws : List String} {w : String} {n callee object key : Node} (ho : IsCalls lib ws object)
      (hk : key.form = .ident w false) (hc : callee.form = .member object key)
      (h : n.form = .call callee [] none) : IsCalls lib (ws ++ [w]) n

/-- The calls of a name declare no key. -/
theorem IsCalls.isQuiet {lib : String} {ws : List String} (h : n.IsCalls lib ws) : n.IsQuiet := by
  induction h with
  | name h => exact isQuiet_of_ident h
  | call ho hk hc h ih => exact (ih.member (isQuiet_of_ident hk) hc).call h

/-- **The member of a name and its calls** that is called next. -/
def IsNextMember (lib : String) (ws : List String) (w : String) (n : Node) : Prop :=
  ∃ object key, object.IsCalls lib ws ∧ key.form = .ident w false ∧ n.form = .member object key

/-- A member is an operand. -/
theorem IsNextMember.isOperand {lib : String} {ws : List String} (h : n.IsNextMember lib ws w) :
    n.IsOperand := by
  obtain ⟨object, key, -, -, h⟩ := h
  rw [IsOperand, h]
  trivial

/-- A member that is called is one call more. -/
theorem IsNextMember.call {lib : String} {ws : List String} {m : Node} (h : n.IsNextMember lib ws w)
    (hm : m.form = .call n [] none) : m.IsCalls lib (ws ++ [w]) := by
  obtain ⟨object, key, ho, hk, hn⟩ := h
  exact .call ho hk hn hm

/-- What an operand is not. -/
private theorem IsOperand.isPlain (h : n.IsOperand) :
    n.isSuper = false ∧ n.isImportWord = false ∧ n.isChain = false := by
  obtain ⟨s, f⟩ := n
  unfold IsOperand at h
  dsimp only [form] at h
  split at h
  all_goals first | exact ⟨rfl, rfl, rfl⟩ | exact h.elim

end Node

/-- The tokens of calls of members, one after the other. -/
def callTokens (ws : List String) : List Token :=
  ws.flatMap fun w => [.mark ".", .word w, .mark "(", .mark ")"]

namespace Read

variable {g : Grammar} {post q : Node → Prop} {ts mid rest : List Token} {start : Nat} {obj : Node}
  {noCall : Bool} {w : String}

/-! ### One step behind an expression -/

/-- **Where nothing stands behind an expression**, it is the whole one. -/
theorem subscript_stop (ho : obj.IsOperand) (hno : ∀ s ∈ ["?", "[", ".", "`"], Unlike ts s)
    (hcall : noCall = true ∨ Unlike ts "(") :
    Gives (subscript g start obj noCall false) ts (· = (obj, false)) ts := by
  obtain ⟨hsuper, himport, -⟩ := ho.isPlain
  unfold subscript
  rw [hsuper, himport]
  -- each kind of what may stand behind an expression is asked for, and is not ahead
  refine ahead_gives.bind fun _ _ => hasTypes_gives.next ?_
  refine .next (a := false) (.and_false (.pure rfl)) (.next (a := none) (.pure rfl) ?_)
  refine .next (a := false) (.and_false (sees_no (hno _ (by decide)))) ?_
  refine .next (a := false) (.and_false (.pure rfl)) ?_
  refine .next (eat_no (hno _ (by decide))) ?_
  refine .next (a := false) (.and_false (.pure rfl)) ?_
  cases noCall
  case' true => refine .next (a := false) (.pure rfl) ?_
  case' false => refine .next (sees_no (hcall.resolve_left (by decide))) ?_
  all_goals
    refine .next (eat_no (hno _ (by decide))) (.next (a := obj) (.pure rfl) ?_)
    exact .next (sees_no (hno _ (by decide))) (.pure rfl)

/-- Any word behind a dot is a name. -/
private theorem name_gives : Gives name (.word w :: ts) (fun n => n.form = .ident w false) ts :=
  curPos_gives.any fun start => (cur_gives rfl).next (bump_gives.any fun _ => nodeFrom_gives start _)

/-- Without a mark before it, a word behind a dot is no private name. -/
private theorem maybePrivateName_gives (hw : w ≠ "#") :
    Gives maybePrivateName (.word w :: ts) (fun n => n.form = .ident w false) ts :=
  .next (sees_no (unlike_cons (beq_eq_false_iff_ne.2 hw))) name_gives

/-- A member of an operand is put together. -/
private theorem memberOf_gives (ho : obj.IsOperand) (key : Node) :
    Gives (memberOf start obj key false noCall) ts (fun n => n.form = .member obj key) ts := by
  obtain ⟨hsuper, -, hchain⟩ := ho.isPlain
  unfold memberOf
  rw [hsuper, hchain]
  exact (spanFrom_gives _).any fun span => .pure rfl

/-- **A member behind an expression**, with which it may go on. -/
theorem subscript_member (ho : obj.IsOperand) (hw : w ≠ "#") :
    Gives (subscript g start obj noCall false) (.mark "." :: .word w :: ts)
      (fun o => o.2 = true ∧ ∃ key, key.form = .ident w false ∧ o.1.form = .member obj key) ts := by
  obtain ⟨hsuper, himport, -⟩ := ho.isPlain
  unfold subscript
  rw [hsuper, himport]
  -- the kinds of what may stand behind an expression are asked for in turn, up to the dot
  refine ahead_gives.bind fun _ _ => hasTypes_gives.next ?_
  refine .next (a := false) (.and_false (.pure rfl)) (.next (a := none) (.pure rfl) ?_)
  refine .next (a := false) (.and_false (sees_no (unlike_cons (by decide)))) ?_
  refine .next (a := false) (.and_false (.pure rfl)) ?_
  refine .next (eat_no (unlike_cons (by decide))) (.next (a := false) (.and_false (.pure rfl)) ?_)
  cases noCall
  case' true => refine .next (a := false) (.pure rfl) ?_
  case' false => refine .next (sees_no (unlike_cons (by decide))) ?_
  all_goals
    refine .next (eat_yes (by decide)) ((maybePrivateName_gives hw).bind fun key hkey => ?_)
    refine (memberOf_gives ho key).bind fun n hn => .next (a := n) (.pure rfl) ?_
    exact .pure ⟨rfl, key, hkey, hn⟩

/-- **No arguments** stand in brackets. -/
private theorem arguments_gives {isImport : Bool} :
    Gives (arguments g isImport) (.mark "(" :: .mark ")" :: ts) (· = []) ts := by
  refine .within (fun c hc => ⟨hc.isModule, hc.strict, hc.inGenerator, hc.inClassField⟩) ?_
  refine curPos_gives.any fun start => (expect_yes (by decide)).any fun _ => ?_
  have hloop : Gives (seesEnd <||> sees ")") (.mark ")" :: ts) (· = true) (.mark ")" :: ts) :=
    .or_false (cur?_gives.next (.pure rfl)) (sees_yes (by decide))
  refine .next (.loop fun k => .iterate_done (hloop.next (.pure ⟨[], rfl, rfl⟩))) ?_
  exact (expect_yes (by decide)).any fun _ => .pure rfl

/-- A call of an operand is put together. -/
private theorem callOf_gives (ho : obj.IsOperand) :
    Gives (callOf start obj [] none false) ts (fun n => n.form = .call obj [] none) ts := by
  obtain ⟨-, -, hchain⟩ := ho.isPlain
  unfold callOf
  rw [hchain]
  exact (spanFrom_gives _).any fun span => .pure rfl

/-- **A call behind an expression**, with which it may go on. -/
theorem subscript_call (ho : obj.IsOperand) :
    Gives (subscript g start obj false false) (.mark "(" :: .mark ")" :: ts)
      (fun o => o.2 = true ∧ o.1.form = .call obj [] none) ts := by
  obtain ⟨hsuper, himport, -⟩ := ho.isPlain
  unfold subscript
  rw [hsuper, himport]
  refine ahead_gives.bind fun _ _ => hasTypes_gives.next ?_
  refine .next (a := false) (.and_false (.pure rfl)) (.next (a := none) (.pure rfl) ?_)
  refine .next (a := false) (.and_false (sees_no (unlike_cons (by decide)))) ?_
  refine .next (a := false) (.and_false (.pure rfl)) ?_
  refine .next (eat_no (unlike_cons (by decide))) (.next (a := false) (.and_false (.pure rfl)) ?_)
  -- the bracket is what is ahead, and nothing stands in it
  refine .next (sees_yes (by decide)) (.next (a := false) (.and_false (.pure rfl)) ?_)
  refine .next (a := none) (.pure rfl) (.next arguments_gives ?_)
  exact (callOf_gives ho).bind fun n hn => .pure ⟨rfl, hn⟩

/-! ### Names -/

/-- A name has a meaning in strict code and generators only. -/
private theorem contains_eq_false_of_isLooseName (hw : IsLooseName w) {l : List String}
    (hl : ∀ s ∈ l, s ∈ meaningWords ∧ s ∉ looseWords) : l.contains w = false := by
  refine Bool.eq_false_iff.2 fun h => ?_
  obtain ⟨hmeaning, hloose⟩ := hl w (List.contains_iff_mem.1 h)
  exact hloose (hw.isFree hmeaning)

/-- A name is not reserved where the rules are loose. -/
private theorem isReserved_of_isLooseName {c : Context} (hw : IsLooseName w) (hc : c.Loose) :
    c.isReserved w = false := by
  unfold Context.isReserved
  split
  · exact hc.strict
  · exact absurd rfl (hw.ne (by decide))
  · rw [hc.inGenerator, hc.strict]
    rfl
  · rw [contains_eq_false_of_isLooseName hw (by decide), hc.strict]
    rfl

/-- A name is one that a variable may have. -/
private theorem allowsName_of_isLooseName {c : Context} {typed withAwait : Bool} (hw : IsLooseName w) :
    c.allowsName typed true withAwait w = true := by
  unfold Context.allowsName
  split
  · exact absurd rfl (hw.ne (by decide))
  · exact absurd rfl (hw.ne (by decide))
  · rfl
  · rfl
  · next hlet hyield =>
    -- of the words that have a meaning only two may be names, and these have been asked for
    have hmeaning : w ∉ meaningWords := by
      intro h
      rcases List.mem_cons.1 (hw.isFree h) with rfl | h
      · exact hlet rfl
      · exact hyield (List.mem_singleton.1 h)
    have hfree (l : List String) (hl : ∀ s ∈ l, s ∈ meaningWords) : l.contains w = false :=
      Bool.eq_false_iff.2 fun h => hmeaning (hl w (List.contains_iff_mem.1 h))
    rw [hfree keywords (by decide), hfree literalWords (by decide)]
    rfl

/-- A name that is ahead is seen. -/
private theorem seesIdent_yes (hw : IsLooseName w) :
    Gives seesIdent (.word w :: ts) (· = true) (.word w :: ts) := by
  refine context_gives.bind fun c hc => (seesToken_gives _).mono ?_
  rintro _ rfl
  change (!c.isReserved w) = true
  rw [isReserved_of_isLooseName hw hc]
  rfl

/-- A mark is no name. -/
private theorem seesIdent_no {m : String} :
    Gives seesIdent (.mark m :: ts) (· = false) (.mark m :: ts) :=
  context_gives.bind fun _ _ => (seesToken_gives _).mono fun _ h => h

/-- **A name refers to a variable.** -/
private theorem identRef_gives (hw : IsLooseName w) :
    Gives identRef (.word w :: ts) (fun n => n.form = .ident w false) ts := by
  refine context_gives.bind fun c hc => ?_
  rw [hc.inGenerator, Bool.not_false]
  refine curPos_gives.any fun start => (cur_gives rfl).next ?_
  refine .next (a := true) ((seesToken_gives _).mono fun _ h => h) ?_
  have htake : Gives takeWord (.word w :: ts) (· = w) ts :=
    cur?_gives.next (bump_gives.any fun _ => .pure rfl)
  refine htake.next (.bind .get fun r hr => context_gives.bind fun c hc => hasTypes_gives.next ?_)
  have henum : (w == "enum") = false := beq_eq_false_iff_ne.2 (hw.ne (by decide))
  have hawait : (w == "await") = false := beq_eq_false_iff_ne.2 (hw.ne (by decide))
  -- names that strict code reserves are faults there only
  have hstrict : Gives (recordStrict r.prevSpan (.strictIdent w)) ts (fun _ => True) ts := by
    refine context_gives.bind fun c hc => ?_
    rw [hc.strict, hc.isModule]
    exact .pure trivial
  rw [henum, hawait, hc.inClassField, Bool.and_false, Bool.false_and, allowsName_of_isLooseName hw]
  cases strictNames.contains w with
  | true => exact hstrict.any fun _ => nodeFrom_gives start (.ident w false)
  | false => exact nodeFrom_gives start (.ident w false)

/-- Nothing behind the name makes it the parameter of an arrow function. -/
private theorem nameOrArrow_gives {canBeArrow : Bool} (hw : IsLooseName w) :
    Gives (nameOrArrow g start canBeArrow) (.word w :: .mark "." :: ts)
      (fun n => n.form = .ident w false) (.mark "." :: ts) := by
  refine (identRef_gives hw).bind fun n hn => ?_
  refine .next (a := false) (.and_no (.pure trivial) (.and_no (.not_any lineBreakBefore_gives)
    seesIdent_no)) ?_
  refine .next (a := false) (.and_no (.pure trivial) (.and_no (.not_any lineBreakBefore_gives)
    (eat_no (unlike_cons (by decide))))) ?_
  exact .pure hn

/-- Nothing behind the word `async` makes it more than a name. -/
private theorem asyncPrimary?_gives {canBeArrow : Bool} {t : Token} :
    Gives (asyncPrimary? g canBeArrow) (t :: .mark "." :: ts) (· = none) (t :: .mark "." :: ts) := by
  refine .next (a := false) (.and_false (seesNext_no (unlike_cons (by decide)))) ?_
  refine .next (a := false) (.and_no (.pure trivial) typed_no) ?_
  refine .next (a := false) (.and_no (.pure trivial) (.and_false
    (seesNext_no (unlike_cons (by decide))))) ?_
  exact .pure rfl

/-- **An expression starts with a name** if a dot is behind it. -/
theorem primary_name (hw : IsLooseName w) :
    Gives (primary g) (.word w :: .mark "." :: ts) (fun n => n.form = .ident w false)
      (.mark "." :: ts) := by
  refine curPos_gives.any fun start => .bind .get fun r hr => cur?_gives.next ?_
  have hname (b : Bool) : Gives (do
      if ← (sees "let" <||> seesIdent) then nameOrArrow g start b
      else if ← eat "#" then
        let n ← nameText
        nodeFrom start (.privateName n)
      else
        let _ ← ahead?
        stop (← curSpan) .expressionExpected) (.word w :: .mark "." :: ts)
        (fun n => n.form = .ident w false) (.mark "." :: ts) := by
    have hseen : Gives (sees "let" <||> seesIdent) (.word w :: .mark "." :: ts) (· = true)
        (.word w :: .mark "." :: ts) := by
      cases hlet : (Token.word w).isText "let" with
      | true => exact .or_true (sees_yes hlet)
      | false => exact .or_false (sees_no (unlike_cons hlet)) (seesIdent_yes hw)
    exact hseen.next (nameOrArrow_gives hw)
  rw [List.head?_cons]
  split
  -- the words and marks that start something else are all those that are told apart there
  · next heq => exact (false_of_word_eq hw heq (by decide)).elim
  · next heq => exact nomatch heq
  · next heq => exact nomatch heq
  · next heq => exact (false_of_word_eq hw heq (by decide)).elim
  · next heq => exact (false_of_word_eq hw heq (by decide)).elim
  · next heq => exact (false_of_word_eq hw heq (by decide)).elim
  · next heq => exact (false_of_word_eq hw heq (by decide)).elim
  · next heq => exact nomatch heq
  · next heq => exact nomatch heq
  · next heq => exact nomatch heq
  · next heq => exact nomatch heq
  · next heq => exact nomatch heq
  · next heq => exact nomatch heq
  · next heq => exact nomatch heq
  · next heq => exact (false_of_word_eq hw heq (by decide)).elim
  · by_cases hasync : w = "async"
    · subst hasync
      exact .next (sees_yes (by decide)) (.next asyncPrimary?_gives (hname _))
    · exact .next (sees_no (unlike_cons (beq_eq_false_iff_ne.2 hasync))) (hname _)

/-! ### Whole expressions -/

/-- **An expression with members** is what it starts with, and what is read behind that. -/
theorem memberOrNewOf_gives {isNew : Bool} (hts : Starts ts) (hpost : ∀ n, post n → n.IsOperand)
    (h : Gives (primary g) ts post mid)
    (hn : ∀ n, post n → Gives (g.subscripts n true false) mid q rest) :
    Gives (memberOrNewOf g isNew) ts q rest := by
  refine .within (fun c hc => ⟨hc.isModule, hc.strict, hc.inGenerator, hc.inClassField⟩) ?_
  refine curPos_gives.any fun start => (eat_no (hts.unlike (by decide))).next ?_
  refine (eat_no (hts.unlike (by decide))).next ((eat_no (hts.unlike (by decide))).next ?_)
  refine h.bind fun n hpn => (isArrowHere_gives (hpost n hpn)).next ?_
  exact .next (a := false) typed_no (.next (a := none) (.pure rfl) (.next (a := n) (.pure rfl) (hn n hpn)))

/-- An operand is not made with the word `new`. -/
private theorem false_of_new {n callee : Node} {args : Option (List Node)} {types : Option Node}
    (ho : n.IsOperand) (h : n.form = .new callee args types) : False := by
  rw [Node.IsOperand, h] at ho
  exact ho

/-- **An expression with calls** is what stands before them, where there are none. -/
theorem leftHandOf_plain (hts : Starts ts) (hrest : Stops rest) (hpost : ∀ n, post n → n.IsOperand)
    (h : Gives (g.memberOrNew true) ts post rest) : Gives (leftHandOf g) ts post rest := by
  refine curPos_gives.any fun start => hasJsx_gives.next ?_
  refine (eat_no (hts.unlike (by decide))).next ((eat_no (hts.unlike (by decide))).next ?_)
  refine h.bind fun n hn => (isArrowHere_gives (hpost n hn)).next ?_
  refine .next (a := false) typed_no (.next (a := none) (.pure rfl) ?_)
  split
  · next heq => exact (false_of_new (hpost n hn) heq).elim
  · exact (sees_no (hrest.unlike (by decide))).next (.pure hn)

/-- **An expression with calls** is what is read behind the first call, if there is one. -/
theorem leftHandOf_call (hts : Starts ts) (hpost : ∀ n, post n → n.IsOperand)
    (h : Gives (g.memberOrNew true) ts post (.mark "(" :: .mark ")" :: mid))
    (hn : ∀ n call, post n → call.form = .call n [] none →
      Gives (g.subscripts call false false) mid q rest) : Gives (leftHandOf g) ts q rest := by
  refine curPos_gives.any fun start => hasJsx_gives.next ?_
  refine (eat_no (hts.unlike (by decide))).next ((eat_no (hts.unlike (by decide))).next ?_)
  refine h.bind fun n hpn => (isArrowHere_gives (hpost n hpn)).next ?_
  refine .next (a := false) typed_no (.next (a := none) (.pure rfl) ?_)
  split
  · next heq => exact (false_of_new (hpost n hpn) heq).elim
  · refine .next (sees_yes (by decide)) (.next arguments_gives ?_)
    exact (callOf_gives (hpost n hpn)).bind fun call hcall => hn n call hpn hcall

/-! ### Calls one after the other -/

/-- Behind an expression nothing is ahead that goes on with it. -/
private theorem stops_unlike (hrest : Stops rest) : ∀ s ∈ ["?", "[", ".", "`"], Unlike rest s := by
  have hmarks : ∀ s ∈ ["?", "[", ".", "`"], s ≠ ")" ∧ s ≠ "\x7d" := by decide
  exact fun s hs => hrest.unlike (hmarks s hs)

/-- **Where nothing stands behind an expression**, no members and calls are read. -/
theorem subscriptsOf_stop (ho : obj.IsOperand) (hrest : Stops rest) :
    Gives (subscriptsOf g obj noCall false) rest (· = obj) rest := by
  refine .loop fun k => .iterate_done ?_
  refine (subscript_stop ho (stops_unlike hrest) (.inr (hrest.unlike (by decide)))).next ?_
  exact .pure ⟨obj, rfl, rfl⟩

/-- A member is read up to the call that follows it. -/
theorem subscriptsOf_member {lib : String} {vs : List String} (ho : obj.IsCalls lib vs) (hw : w ≠ "#") :
    Gives (subscriptsOf g obj true false) (.mark "." :: .word w :: .mark "(" :: ts)
      (Node.IsNextMember lib vs w) (.mark "(" :: ts) := by
  have hmarks : ∀ s ∈ ["?", "[", ".", "`"], Unlike (.mark "(" :: ts) s := by
    have hne : ∀ s ∈ ["?", "[", ".", "`"], (Token.mark "(").isText s = false := by decide
    exact fun s hs => unlike_cons (hne s hs)
  refine .loop fun k => .iterate_more (p := Node.IsNextMember lib vs w) (m := .mark "(" :: ts) ?_ ?_
  · refine (subscript_member ho.isQuiet.isOperand hw).bind ?_
    rintro ⟨n, _⟩ ⟨rfl, key, hkey, hn⟩
    exact .pure ⟨n, rfl, obj, key, ho, hkey, hn⟩
  · refine fun n hn => .iterate_done ((subscript_stop hn.isOperand hmarks (.inl rfl)).next ?_)
    exact .pure ⟨n, rfl, hn⟩

/-- **Members that are called** are read one after the other; the bound is on the number of steps. -/
private theorem iterate_subscripts {lib : String} {vs : List String} (hrest : Stops rest) (lo : Nat)
    (ws : List String) (hw : ∀ w ∈ ws, w ≠ "#") (n : Nat) (hn : 2 * ws.length < n)
    (ho : obj.IsCalls lib vs) :
    Gives (iterate (fun node => do
      let (node, more) ← subscript g lo node false false
      if more then return .inl node else return .inr node) n obj) (callTokens ws ++ rest)
      (Node.IsCalls lib (vs ++ ws)) rest := by
  -- by induction on the calls that are to come: two steps of the loop for each, the member and the call
  induction ws generalizing obj vs n with
  | nil =>
    obtain ⟨k, rfl⟩ := Nat.exists_eq_add_one_of_ne_zero (Nat.ne_zero_of_lt hn)
    refine .iterate_done ?_
    refine (subscript_stop ho.isQuiet.isOperand (stops_unlike hrest)
      (.inr (hrest.unlike (by decide)))).next ?_
    rw [List.append_nil]
    exact .pure ⟨obj, rfl, ho⟩
  | cons w ws ih =>
    obtain ⟨hw, hws⟩ := List.forall_mem_cons.1 hw
    rw [List.length_cons] at hn
    obtain ⟨k, rfl⟩ : ∃ k, n = k + 2 := ⟨n - 2, by omega⟩
    have htokens : callTokens (w :: ws) ++ rest =
        .mark "." :: .word w :: .mark "(" :: .mark ")" :: (callTokens ws ++ rest) := rfl
    rw [htokens, List.append_cons]
    refine .iterate_more (p := Node.IsNextMember lib vs w)
      (m := .mark "(" :: .mark ")" :: (callTokens ws ++ rest)) ?_
      fun n hn => .iterate_more (p := Node.IsCalls lib (vs ++ [w])) (m := callTokens ws ++ rest) ?_ ?_
    · refine (subscript_member ho.isQuiet.isOperand hw).bind ?_
      rintro ⟨n, _⟩ ⟨rfl, key, hkey, hn⟩
      exact .pure ⟨n, rfl, obj, key, ho, hkey, hn⟩
    · refine (subscript_call hn.isOperand).bind ?_
      rintro ⟨n, _⟩ ⟨rfl, hcall⟩
      exact .pure ⟨n, rfl, hn.call hcall⟩
    · exact fun n hcalls => ih hws k (by omega) hcalls

/-- **Calls behind an expression** are read one after the other, up to where the expression stops. -/
theorem subscriptsOf_calls {lib : String} {vs : List String} (ho : obj.IsCalls lib vs)
    (hrest : Stops rest) {ws : List String} (hw : ∀ w ∈ ws, w ≠ "#") (hlength : ws.length < 4) :
    Gives (subscriptsOf g obj false false) (callTokens ws ++ rest) (Node.IsCalls lib (vs ++ ws)) rest :=
  .loop fun k => iterate_subscripts hrest obj.lo ws hw (k + 8) (by omega) ho


/-! ### Expressions up to a depth -/

/-- **An expression up to a comma** is what is read before the operators, where there are none. -/
private theorem assign_of_leftHandOf (depth : Nat) (hts : Starts ts) (hrest : Stops rest)
    (hpost : ∀ n, post n → n.IsOperand) (h : Gives (leftHandOf (.ofDepth depth)) ts post rest) :
    Gives (Grammar.ofDepth (depth + 3)).assign ts post rest :=
  assignment_gives hts hrest hpost (unaryOf_gives hts hrest hpost h)

/-- **An expression up to a comma** is what it starts with, where nothing is behind that. -/
theorem assign_of_primary (depth : Nat) (hts : Starts ts) (hrest : Stops rest)
    (hpost : ∀ n, post n → n.IsOperand) (h : Gives (primary (.ofDepth (depth + 1))) ts post rest) :
    Gives (Grammar.ofDepth (depth + 5)).assign ts post rest := by
  refine assign_of_leftHandOf _ hts hrest hpost (leftHandOf_plain hts hrest hpost ?_)
  refine memberOrNewOf_gives hts hpost h fun n hn => ?_
  exact (subscriptsOf_stop (hpost n hn) hrest).mono fun _ heq => heq ▸ hn

/-- **Calls of the members of a name** are read as such. -/
theorem assign_calls (depth : Nat) {lib : String} (hlib : IsLooseName lib) {w : String} {ws : List String}
    (hw : ∀ v ∈ w :: ws, v ≠ "#") (hlength : ws.length < 4) (hrest : Stops rest) :
    Gives (Grammar.ofDepth (depth + 5)).assign (.word lib :: (callTokens (w :: ws) ++ rest))
      (Node.IsCalls lib (w :: ws)) rest := by
  obtain ⟨hw, hws⟩ := List.forall_mem_cons.1 hw
  have hts : Starts (.word lib :: (callTokens (w :: ws) ++ rest)) := .name hlib _
  have hop : ∀ n : Node, n.IsCalls lib [] → n.IsOperand := fun n hn => hn.isQuiet.isOperand
  -- the first member is read before any call, as the word `new` might be ahead
  have hmember : Gives (memberOrNewOf (.ofDepth (depth + 1)) true)
      (.word lib :: (callTokens (w :: ws) ++ rest)) (Node.IsNextMember lib [] w)
      (.mark "(" :: .mark ")" :: (callTokens ws ++ rest)) := by
    refine memberOrNewOf_gives hts hop ?_ fun n hn => subscriptsOf_member hn hw
    exact (primary_name hlib).mono fun n hn => .name hn
  refine assign_of_leftHandOf _ hts hrest (fun n hn => hn.isQuiet.isOperand)
    (leftHandOf_call hts (fun n hn => hn.isOperand) hmember ?_)
  exact fun n call hn hcall => subscriptsOf_calls (hn.call hcall) hrest hws hlength

end Read

end EnvSchema.Script
