import EnvSchema.Proofs.Script.Apt.Declarations
import EnvSchema.Script.Reader.Statements

/-!
# Statements are no properties

* `Read.blockOf_apt`, `Read.forLoop_apt`, `Read.tryStatement_apt`, … — statements, one reader after the
  other;
* `Read.plainStatement_apt`, `Read.innerStatement_apt` — any statement.
-/

namespace EnvSchema.Script.Read

variable {g : Grammar} {start : Nat} {α : Type} {step : Read α} {p : α → Prop}

-- phrases are built from parts that are known one by one
attribute [local simp] Form.parts

/-! ### Blocks and jumps -/

theorem inLoop_yields (h : Yields step p) : Yields (inLoop step) p := .within h

/-- **Statements between braces.** -/
theorem blockOf_apt (hg : g.Apt) {directives : Bool} : Yields (blockOf g directives) Node.Apt := by
  refine .after fun start => .after fun _ => .bind (p := Node.AllApt) (.after fun before => ?_) ?_
  · refine .bind (p := Node.AllApt) ?_ fun body hbody => .after fun _ => .pure hbody
    refine .loop Node.AllApt Node.allApt_nil fun out hout => .after fun _ => .ite ?_ (.after fun _ => ?_)
    · exact .after fun _ => .after fun _ => .pure hout
    refine .ite (.pure hout) (hg.statementItem.bind fun node hnode => ?_)
    have hmore : Node.AllApt (out ++ [node]) := hout.append_singleton hnode
    exact .check fun _ => .pure hmore
  · exact fun body hbody => node_apt rfl hbody

theorem jump_apt {isBreak : Bool} : Yields (jump start isBreak) Node.Apt := by
  refine .after fun _ => .after fun _ => ?_
  extract_lets -underBinder rest
  have hrest : ∀ o, Node.MaybeApt o → Yields (rest o) Node.Apt := by
    refine fun label hlabel => .after fun span => .after fun c => .after fun r => ?_
    have hbreak : Node.Apt (.mk span (.breakStatement label)) :=
      Node.apt_of_parts rfl (by simp [hlabel])
    have hcontinue : Node.Apt (.mk span (.continueStatement label)) :=
      Node.apt_of_parts rfl (by simp [hlabel])
    refine .ite (.ite (.after fun _ => .pure hbreak) (.check fun _ => .pure hbreak)) ?_
    exact .ite (.after fun _ => .pure hcontinue) (.check fun _ => .pure hcontinue)
  clear_value rest
  refine .ite (.give (hrest _ Node.maybeApt_none)) (identRef_apt.bind fun id hid => .after fun _ => ?_)
  exact .give (hrest _ (Node.maybeApt_some.2 hid))

theorem condition_apt (hg : g.Apt) : Yields (condition g) Node.Apt :=
  .after fun _ => hg.exprIn.bind fun _ hexpr => .after fun _ => .pure hexpr

theorem ifStatement_apt (hg : g.Apt) : Yields (ifStatement g start) Node.Apt := by
  refine .after fun _ => (condition_apt hg).bind fun test htest => hg.statement.bind fun yes hyes => ?_
  refine .after fun _ => (Yields.when? hg.statement).bind fun no (hno : Node.MaybeApt no) => ?_
  exact node_apt rfl (by simp [htest, hyes, hno])

theorem returnStatement_apt (hg : g.Apt) : Yields (returnStatement g start) Node.Apt := by
  have hstatement : Yields (do
      bump
      let arg ← if ← atStatementEnd then pure none else some <$> g.exprIn
      expectStatementEnd
      nodeFrom start (.returnStatement arg)) Node.Apt := by
    refine .after fun _ => .after fun _ => ?_
    refine .either Node.MaybeApt (.pure Node.maybeApt_none) hg.exprIn.some_ fun arg harg => ?_
    exact .after fun _ => node_apt rfl (by simp [harg])
  exact hstatement.outcome.bind fun o ho => .after fun c => .check₂ fun _ => .settle ho

/-! ### Choices and errors -/

theorem switchCase_apt (hg : g.Apt) {hasDefault : Bool} : Yields (switchCase g hasDefault) (·.1.Apt) := by
  refine .after fun start => .after fun isCase => .after fun _ => ?_
  extract_lets -underBinder rest
  have hrest : ∀ o, Node.MaybeApt o → Yields (rest o) (·.1.Apt) := by
    refine fun test htest => .after fun _ => .bind (p := Node.AllApt) ?_ fun body hbody => ?_
    · refine .loop Node.AllApt Node.allApt_nil fun out hout => .after fun _ => .ite (.pure hout) ?_
      exact hg.statementItem.bind fun n hn => .pure (hout.append_singleton hn)
    · exact (node_apt rfl (by simp [htest, hbody])).bind fun n hn => .pure hn
  clear_value rest
  refine .ite (hg.exprIn.some_.bind hrest) (.ite (.bind .stopHere hrest) ?_)
  exact .give (hrest _ Node.maybeApt_none)

theorem switchStatement_apt (hg : g.Apt) : Yields (switchStatement g start) Node.Apt := by
  refine .after fun _ => (condition_apt hg).bind fun subject hsubject => .after fun _ => ?_
  refine .bind (p := Node.AllApt) (.within (.loop (Node.AllApt ·.1) Node.allApt_nil ?_)) ?_
  · rintro ⟨out, hasDefault⟩ hout
    refine .after fun _ => .ite ((switchCase_apt hg).bind ?_) (.pure hout)
    rintro ⟨node, isDefault⟩ hnode
    exact .pure (hout.append_singleton hnode)
  · exact fun cases hcases => .after fun _ => node_apt rfl (by simp [hsubject, hcases])

theorem throwStatement_apt (hg : g.Apt) : Yields (throwStatement g start) Node.Apt := by
  refine .after fun _ => .after fun _ => .check fun _ => hg.exprIn.bind fun arg harg => .after fun _ => ?_
  exact node_apt rfl (by simp [harg])

theorem catchParam?_apt (hg : g.Apt) : Yields (catchParam? g) Node.MaybeApt := by
  refine .after fun _ => .ite (.pure Node.maybeApt_none) ?_
  refine (hg.pattern _).bind fun pattern hpattern => .after fun pos => .after fun _ => ?_
  extract_lets -underBinder done
  have hdone : ∀ n : Node, n.Apt → Yields (done n) Node.MaybeApt := fun n hn =>
    .after fun _ => .pure (Node.maybeApt_some.2 hn)
  clear_value done
  refine .ite ((typeFrom_apt hg).bind fun type htype => ?_) (.give (hdone _ hpattern))
  exact .give (hdone _ (hpattern.withType (Node.maybeApt_some.2 htype)))

theorem catchClause?_apt (hg : g.Apt) : Yields (catchClause? g) Node.MaybeApt := by
  refine .after fun start => .after fun _ => .ite (.pure Node.maybeApt_none) ?_
  refine (catchParam?_apt hg).bind fun param hparam => (hg.block _).bind fun body hbody => ?_
  exact Yields.thenSome (node_apt rfl (by simp [hparam, hbody]))

theorem finallyBlock?_apt (hg : g.Apt) : Yields (finallyBlock? g) Node.MaybeApt :=
  .after fun _ => .when? (hg.block _)

theorem tryStatement_apt (hg : g.Apt) : Yields (tryStatement g start) Node.Apt := by
  refine .after fun _ => (hg.block _).bind fun body hbody => .after fun pos => ?_
  refine (catchClause?_apt hg).bind fun handler hhandler => ?_
  refine (finallyBlock?_apt hg).bind fun finalizer hfinalizer => .check fun _ => ?_
  exact node_apt rfl (by simp [hbody, hhandler, hfinalizer])

theorem strayHandler_apt : Yields (strayHandler g) Node.Apt := by
  refine .after fun span => .after fun _ => .after fun _ => .after fun _ => .pure ?_
  exact Node.apt_of_parts rfl (by simpa using Node.apt_leaf rfl rfl)

theorem withStatement_apt (hg : g.Apt) : Yields (withStatement g start) Node.Apt := by
  refine .after fun span => .after fun _ => .check fun _ => .after fun _ => .after fun _ => ?_
  refine (condition_apt hg).bind fun object hobject => ?_
  refine (Yields.within hg.statement).bind fun body hbody => ?_
  exact node_apt rfl (by simp [hobject, hbody])

theorem labeled_apt (hg : g.Apt) {label : Node} (h : label.Apt) : Yields (labeled g label) Node.Apt := by
  refine .within (.after fun r => .after fun _ => .after fun _ => ?_)
  extract_lets -underBinder rest
  have hrest : ∀ n : Node, n.Apt → Yields (rest n) Node.Apt := by
    refine fun body hbody => .check fun _ => .after fun _ => ?_
    exact node_apt rfl (by simp [h, hbody])
  clear_value rest
  refine .ite ((functionDecl_apt hg).bind fun f hf => ?_) (hg.statement.bind hrest)
  extract_lets -underBinder done
  have hdone : ∀ u, Yields (done u) Node.Apt := fun _ => .give (hrest _ hf)
  split
  · exact .after fun c => .ite (.after hdone) (hdone ())
  · exact hdone ()

/-! ### Loops -/

/-- What stands in the brackets of a `for` loop may stand anywhere. -/
inductive ForHead.Apt : ForHead → Prop
  | counted {init test update : Option Node} (init_apt : Node.MaybeApt init)
      (test_apt : Node.MaybeApt test) (update_apt : Node.MaybeApt update) :
      Apt (.counted init test update)
  | keys {left right : Node} (left_apt : left.Apt) (right_apt : right.Apt) : Apt (.keys left right)
  | values {left right : Node} (left_apt : left.Apt) (right_apt : right.Apt) : Apt (.values left right)

theorem eachHead_apt (hg : g.Apt) {left : Node} (h : left.Apt) :
    Yields (eachHead g left) ForHead.Apt := by
  refine .after fun isOf => .after fun _ => .ite ?_ ?_
  · exact hg.assignIn.bind fun right hright => .pure (.values h hright)
  extract_lets -underBinder rest
  have hrest : ∀ u, Yields (rest u) ForHead.Apt := fun _ =>
    hg.exprIn.bind fun right hright => .pure (.keys h hright)
  split
  · exact .after hrest
  · exact hrest ()

theorem countedHead_apt (hg : g.Apt) {init : Option Node} (h : Node.MaybeApt init) :
    Yields (countedHead g init) ForHead.Apt := by
  refine .after fun _ => ?_
  extract_lets -underBinder rest
  have hrest : ∀ o, Node.MaybeApt o → Yields (rest o) ForHead.Apt := by
    refine fun test htest => .after fun _ => ?_
    refine .either Node.MaybeApt (.pure Node.maybeApt_none) hg.exprIn.some_ fun update hupdate => ?_
    exact .pure (.counted h htest hupdate)
  clear_value rest
  refine .ite (.give (hrest _ Node.maybeApt_none)) (hg.exprIn.bind fun test htest => .after fun _ => ?_)
  exact .give (hrest _ (Node.maybeApt_some.2 htest))

theorem forHead_apt (hg : g.Apt) : Yields (forHead g) ForHead.Apt := by
  refine .after fun _ => .after fun _ => ?_
  extract_lets -underBinder rest
  -- the loop goes over what is declared in its head, or over what is assigned there
  have hrest : ∀ b, Yields (rest b) ForHead.Apt := by
    refine fun declares => .ite ?_ (.after fun _ => .ite (countedHead_apt hg Node.maybeApt_none) ?_)
    · refine (varDeclaration_apt hg).bind fun decl hdecl => .after fun _ => .ite ?_ (.after fun _ => ?_)
      · extract_lets -underBinder each
        have heach : ∀ u, Yields (each u) ForHead.Apt := fun _ => eachHead_apt hg hdecl
        split
        · exact .after heach
        · exact heach ()
      · exact countedHead_apt hg (Node.maybeApt_some.2 hdecl)
    refine .after fun start => (Yields.within hg.expr).bind fun init hinit => ?_
    extract_lets -underBinder assigned
    have hassigned : ∀ u, Yields (assigned u) ForHead.Apt := by
      refine fun _ => .after fun _ => .ite (.after fun isIn => ?_) (.after fun _ => .after fun _ => ?_)
      · refine (patternOf_apt hinit).bind fun pattern hpattern => .after fun typed => ?_
        extract_lets -underBinder each
        have heach : ∀ u, Yields (each u) ForHead.Apt := fun _ => eachHead_apt hg hpattern
        refine .ite ?_ (heach ())
        split
        iterate 3 exact .after heach
        exact heach ()
      · exact countedHead_apt hg (Node.maybeApt_some.2 hinit)
    clear_value assigned
    split
    · refine .after fun _ => .ite (bindingIdent_apt.bind fun pattern hpattern => ?_) (hassigned ())
      refine (node_apt rfl (by simp [hpattern])).bind fun decl hdecl => ?_
      refine (node_apt rfl (by simp [hdecl])).bind fun decl hdecl => .after fun _ => ?_
      exact eachHead_apt hg hdecl
    · exact hassigned ()
  clear_value rest
  exact .ite (.give (hrest _)) (.ite (.after hrest) (.give (hrest _)))

theorem forLoop_apt (hg : g.Apt) : Yields (forLoop g start) Node.Apt := by
  refine .after fun _ => .after fun awaitStart => .after fun isAwait => .after fun awaitSpan => ?_
  refine .after fun _ => (Yields.within (forHead_apt hg)).bind fun head hhead => .after fun _ => ?_
  refine (inLoop_yields hg.statement).bind fun body hbody => .after fun span => ?_
  cases hhead with
  | counted hinit htest hupdate =>
    refine .check fun _ => .pure (Node.apt_of_parts rfl ?_)
    simp [hinit, htest, hupdate, hbody]
  | keys hleft hright =>
    refine .check fun _ => .pure (Node.apt_of_parts rfl ?_)
    simp [hleft, hright, hbody]
  | values hleft hright =>
    exact .pure (Node.apt_of_parts rfl (by simp [hleft, hright, hbody]))

theorem whileLoop_apt (hg : g.Apt) : Yields (whileLoop g start) Node.Apt := by
  refine .after fun _ => (condition_apt hg).bind fun test htest => ?_
  refine (inLoop_yields hg.statement).bind fun body hbody => ?_
  exact node_apt rfl (by simp [htest, hbody])

theorem doWhile_apt (hg : g.Apt) : Yields (doWhile g start) Node.Apt := by
  refine .after fun _ => (inLoop_yields hg.statement).bind fun body hbody => .after fun _ => ?_
  refine (condition_apt hg).bind fun test htest => .after fun _ => ?_
  exact node_apt rfl (by simp [htest, hbody])

/-! ### Statements by their first token -/

theorem afterName?_apt (hg : g.Apt) {expr : Node} (h : expr.Apt) {word : String} :
    Yields (afterName? g start expr word) Node.MaybeApt := by
  refine .after fun _ => .ite (.after fun _ => .after fun _ => ?_) (.after fun typed => ?_)
  · exact Yields.thenSome (node_apt rfl (by simp [h]))
  extract_lets -underBinder rest
  have hrest : ∀ u, Yields (rest u) Node.MaybeApt := by
    refine fun _ => .check fun _ => .after fun _ => .ite (.after fun _ => .ite ?_ ?_) ?_
    · exact .after fun _ => (interface_apt hg).thenSome
    · exact .pure Node.maybeApt_none
    · exact .pure Node.maybeApt_none
  clear_value rest
  refine .ite (.tried (declarationAfter?_apt hg h) (fun _ hn => .pure ?_) (hrest ())) (hrest ())
  exact Node.maybeApt_some.2 hn

/-- **A statement that is an expression.** -/
theorem expressionStatement_apt (hg : g.Apt) : Yields (expressionStatement g start) Node.Apt := by
  refine hg.exprIn.bind fun expr hexpr => ?_
  extract_lets -underBinder rest
  have hrest : ∀ u, Yields (rest u) Node.Apt := by
    refine fun _ => .after fun _ => .ite ?_ (.after fun _ => .ite (.after fun _ => .after fun _ => ?_) ?_)
    · exact node_apt rfl (by simp [hexpr])
    · refine (binaryRest_apt hg hexpr).bind fun expr hexpr => ?_
      exact node_apt rfl (by simp [hexpr])
    · exact .stopHere
  clear_value rest
  split
  · refine .after fun _ => .ite (labeled_apt hg hexpr) ?_
    exact .tried (afterName?_apt hg hexpr) (fun _ => .pure) (hrest ())
  · exact .after hrest

theorem typeStatement?_apt (hg : g.Apt) {word : String} :
    Yields (typeStatement? g start word) Node.MaybeApt := by
  refine .after fun _ => .ite (.pure Node.maybeApt_none) ?_
  split
  · exact .after fun _ => (interface_apt hg).thenSome
  · exact .after fun _ => (typeAlias_apt hg).thenSome
  · exact .after fun _ => (enum_apt hg).thenSome
  · exact .pure Node.maybeApt_none

theorem awaitUsing?_apt (hg : g.Apt) : Yields (awaitUsing? g start) Node.MaybeApt := by
  refine .after fun _ => .ite (.pure Node.maybeApt_none) (.after fun _ => ?_)
  refine (usingDeclaration?_apt hg).bind fun o ho => ?_
  split
  · exact .pure ho
  · refine hg.unary.bind fun arg harg => ?_
    refine (node_apt rfl (by simp [harg])).bind fun expr hexpr => ?_
    refine (Yields.within (binaryRest_apt hg hexpr)).bind fun expr hexpr => .after fun _ => ?_
    exact Yields.thenSome (node_apt rfl (by simp [hexpr]))

theorem declarationStatement?_apt (hg : g.Apt) {word : String} :
    Yields (declarationStatement? g start word) Node.MaybeApt := by
  unfold declarationStatement?
  split
  · exact (varDeclaration_apt hg).thenSome
  · exact .after fun _ => .ite (varDeclaration_apt hg).thenSome (.pure Node.maybeApt_none)
  · exact usingDeclaration?_apt hg
  · exact awaitUsing?_apt hg
  · exact .pure Node.maybeApt_none

theorem keywordStatement?_apt (hg : g.Apt) {word : String} {declares : Bool} :
    Yields (keywordStatement? g start word declares) Node.MaybeApt := by
  unfold keywordStatement?
  -- one case for each word that a statement can begin with
  split
  · exact jump_apt.some_
  · exact jump_apt.some_
  · exact .after fun _ => .after fun _ => Yields.thenSome (leaf_apt rfl rfl)
  · exact (doWhile_apt hg).some_
  · exact (forLoop_apt hg).some_
  · exact .check₂ fun _ => (functionDecl_apt hg).some_
  · exact .check₂ fun _ => (classDecl_apt hg).some_
  · exact (ifStatement_apt hg).some_
  · exact (returnStatement_apt hg).some_
  · exact (switchStatement_apt hg).some_
  · exact (throwStatement_apt hg).some_
  · exact strayHandler_apt.some_
  · exact strayHandler_apt.some_
  · exact (tryStatement_apt hg).some_
  · exact (withStatement_apt hg).some_
  · exact (whileLoop_apt hg).some_
  · exact (varDeclaration_apt hg).some_
  · exact .pure Node.maybeApt_none

/-- **A statement**, and a declaration where one may stand. -/
theorem plainStatement_apt (hg : g.Apt) {declares : Bool} :
    Yields (plainStatement g declares) Node.Apt := by
  refine .within (.after fun start => .after fun _ => .ite ?_ ?_)
  · exact .after fun _ => .after fun _ => enum_apt hg
  refine .after fun t => ?_
  split
  · exact hg.block _
  · exact .after fun _ => leaf_apt rfl rfl
  · refine .tried (keywordStatement?_apt hg) (fun _ => .pure) ?_
    dsimp -zeta only
    extract_lets -underBinder rest
    -- a name begins a statement of types or a function before it is taken for an expression
    have hrest : ∀ u, Yields (rest u) Node.Apt := by
      refine fun _ => .tried (typeStatement?_apt hg) (fun _ => .pure) ?_
      exact .after fun _ => .ite (.after fun _ => functionDecl_apt hg) (expressionStatement_apt hg)
    exact .ite (.tried (declarationStatement?_apt hg) (fun _ => .pure) (hrest ())) (hrest ())
  · exact expressionStatement_apt hg

/-- **A statement within another one.** -/
theorem innerStatement_apt (hg : g.Apt) {declares : Bool} :
    Yields (innerStatement g declares) Node.Apt := by
  refine .after fun _ => .ite (.after fun start => .after fun _ => .ite ?_ .stopHere)
    (plainStatement_apt hg)
  refine hg.expr.bind fun expr hexpr => .after fun _ => ?_
  exact node_apt rfl (by simp [hexpr])

end EnvSchema.Script.Read
