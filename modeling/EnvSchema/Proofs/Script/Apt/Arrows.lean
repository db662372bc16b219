import EnvSchema.Proofs.Script.Apt.Functions
import EnvSchema.Script.Reader.Arrows

/-!
# Operators, brackets and arrow functions

* `Read.binary_apt`, `Read.assignmentRest_apt` — expressions with operators are no properties;
* `Read.bracketed_apt` — nor is what brackets start, be it an expression or an arrow function.
-/

namespace EnvSchema.Script.Read

variable {g : Grammar} {start : Nat}

-- phrases are built from parts that are known one by one
attribute [local simp] Form.parts

/-! ### Operators -/

theorem typeOperators_apt (hg : g.Apt) {left : Node} (h : left.Apt) {strength : Nat} :
    Yields (typeOperators g left strength) Node.Apt := by
  have htype : Yields (inType do bump; g.type) Node.Apt := .inType (.after fun _ => hg.type)
  refine .loop Node.Apt h fun left hleft => .after fun _ => .ite (.pure hleft) (.after fun _ => ?_)
  refine .ite (.after fun _ => .ite (.after fun _ => .after fun _ => ?_) ?_) (.after fun _ => .ite ?_ ?_)
  · exact (node_apt rfl (by simp [hleft])).bind fun n hn => .pure hn
  · refine htype.bind fun type htype => .after fun _ => ?_
    exact (node_apt rfl (by simp [hleft, htype])).bind fun n hn => .pure hn
  · refine htype.bind fun type htype => .after fun _ => ?_
    exact (node_apt rfl (by simp [hleft, htype])).bind fun n hn => .pure hn
  · exact .pure hleft

/-- **The operators behind a first operand.** -/
theorem binaryUpTo_apt (hg : g.Apt) {fuel : Nat} {left : Node} (h : left.Apt) {strength : Nat} :
    Yields (binaryUpTo g fuel left strength) Node.Apt := by
  induction fuel generalizing left strength with
  | zero => exact .after fun _ => .fail
  | succ fuel ih =>
    refine .loop Node.Apt h fun left hleft => (typeOperators_apt hg hleft).bind fun left hleft => ?_
    refine .after fun o => ?_
    split
    · exact .pure hleft
    · next op s =>
      refine .ite (.pure hleft) (.after fun _ => ?_)
      extract_lets -underBinder rest
      have hrest : ∀ u, Yields (rest u) (Sum.elim Node.Apt Node.Apt) := by
        refine fun _ => hg.unary.bind fun first hfirst => (ih hfirst).bind fun right hright => ?_
        exact .after fun _ => .pure (Node.apt_of_parts rfl (by simp [hleft, hright]))
      refine .ite ?_ (hrest ())
      split
      iterate 2 exact .after hrest
      exact hrest ()

theorem binaryRest_apt (hg : g.Apt) {left : Node} (h : left.Apt) :
    Yields (binaryRest g left) Node.Apt := .after fun _ => binaryUpTo_apt hg h

/-- **Operands with operators between them.** -/
theorem binary_apt (hg : g.Apt) : Yields (binary g) Node.Apt := by
  refine hg.unary.outcome.bind fun o ho => ?_
  extract_lets -underBinder rest
  have hrest : ∀ n : Node, n.Apt → Yields (rest n) Node.Apt := fun n hn =>
    .after fun _ => .ite (.pure hn) (binaryRest_apt hg hn)
  clear_value rest
  split
  · exact .give (hrest _ (ho _ rfl))
  · refine .after fun _ => .after fun _ => .ite (.after fun _ => .after fun _ => ?_) (.bind .throw hrest)
    exact .give (hrest _ (Node.apt_leaf rfl rfl))

theorem conditional_apt (hg : g.Apt) : Yields (conditional g) Node.Apt := by
  refine .after fun start => (binary_apt hg).bind fun test htest => .after fun _ => .ite (.pure htest) ?_
  refine .after fun _ => .ite ?_ (.pure htest)
  refine (Yields.within hg.assign).bind fun yes hyes => .after fun _ => ?_
  refine (Yields.within hg.assign).bind fun no hno => .pure ?_
  exact Node.apt_of_parts rfl (by simp [htest, hyes, hno])

theorem assignmentTarget_apt {op : String} {expr : Node} (h : expr.Apt) :
    Yields (assignmentTarget op expr) Node.Apt := by
  unfold assignmentTarget
  extract_lets -underBinder isPlain rest
  have hrest : ∀ n : Node, n.Apt → Yields (rest n) Node.Apt := fun n hn => .check fun _ => .pure hn
  clear_value rest
  refine .ite ((patternOf_apt h).bind hrest) (.after fun typed => .after fun _ => .check fun _ => ?_)
  beta_reduce
  extract_lets -underBinder target
  have htarget : ∀ u, Yields (target u) Node.Apt := by
    intro u
    unfold target
    split
    · exact .give (hrest _ bindingOf_apt)
    · exact .give (hrest _ h)
  exact .ite (.after htarget) (htarget ())

/-- **What is done with an expression** before a mark of assignment. -/
theorem assignmentRest_apt (hg : g.Apt) {expr : Node} (h : expr.Apt) :
    Yields (assignmentRest g start expr) Node.Apt := by
  refine .after fun t => ?_
  split
  · refine .ite ((assignmentTarget_apt h).bind fun target htarget => .after fun _ => ?_) (.pure h)
    refine hg.assign.bind fun value hvalue => ?_
    exact node_apt rfl (by simp [htarget, hvalue])
  · exact .pure h

/-! ### Items in brackets -/

theorem spreadable_apt (hg : g.Apt) : Yields (spreadable g) Node.Apt := by
  refine .after fun start => .after fun _ => .ite (hg.assignIn.bind fun arg harg => .pure ?_) hg.assign
  exact Node.apt_of_parts rfl (by simp [harg])

theorem typedItem_apt (hg : g.Apt) : Yields (typedItem g start) Node.Apt := by
  refine .after fun itemStart => .after fun _ => .ite ?_ ?_
  · refine (Yields.within (binary_apt hg)).bind fun arg harg => .pure ?_
    exact Node.apt_of_parts rfl (by simp [harg])
  · refine (binary_apt hg).bind fun expr hexpr => .after fun _ => ?_
    exact .ite (assignmentRest_apt hg hexpr) (.pure hexpr)

theorem questionItem_apt (hg : g.Apt) {item : Node} (h : item.Apt) :
    Yields (questionItem g start item) (·.1.Apt) := by
  unfold questionItem
  refine .after fun _ => .ite (.pure h) ?_
  extract_lets -underBinder isSpread
  refine .after fun _ => .ite (.after fun _ => .after fun _ => ?_) (.ite (.after fun _ => ?_) (.pure h))
  · extract_lets -underBinder checked
    have hchecked : ∀ u, Yields (checked u) (·.1.Apt) := by
      intro u
      unfold checked
      split
      iterate 2 exact .pure h
      exact .stop
    exact .ite (.after fun _ => .after hchecked) (hchecked ())
  · refine (Yields.within hg.assign).bind fun yes hyes => .after fun _ => ?_
    refine (Yields.within hg.assign).bind fun no hno => .pure ?_
    exact Node.apt_of_parts rfl (by simp [h, hyes, hno])

theorem patternItem_apt (hg : g.Apt) {item : Node} (h : item.Apt) {optional : Bool} :
    Yields (patternItem g start item optional) Node.Apt := by
  unfold patternItem
  split
  next inner isSpread heq =>
  -- what the item spreads is a part of it, and so is apt as well
  have hinner : inner.Apt := by
    split at heq
    · next arg hform =>
      cases heq
      exact h.tidy.onlyPart hform rfl rfl
    · cases heq
      exact h
  refine (patternOf_apt hinner).bind fun pattern hpattern => ?_
  extract_lets -underBinder given rest
  have hgiven : given.Apt := by
    unfold given
    split
    · exact hpattern.asOptional
    · exact hpattern
  -- behind the pattern there may be a type and a value, whether or not the item is a rest
  have hrest : ∀ n : Node, n.Apt → Yields (rest n) Node.Apt := by
    intro n hn
    unfold rest
    extract_lets -underBinder done
    have hdone : ∀ n : Node, n.Apt → Yields (done n) Node.Apt := by
      refine fun n hn => .after fun _ => .ite (hg.assign.bind fun right hright => ?_) (.pure hn)
      exact node_apt rfl (by simp [hn, hright])
    clear_value done
    split
    iterate 4
      · refine (colonType?_apt hg).bind fun type htype => ?_
        refine .eitherWay fun span => .give (hdone _ ?_)
        exact hn.withSpan.withType htype
    · exact .give (hdone _ hn)
  clear_value given rest
  exact .ite ((node_apt rfl (by simp [hgiven])).bind hrest) (.give (hrest _ hgiven))

theorem itemArrow_apt (hg : g.Apt) {isAsync : Bool} {items : List Node} (h : Node.AllApt items) :
    Yields (itemArrow g start isAsync items) Node.AllApt := by
  refine .ite (.pure h) ((parametersOf_apt h).bind fun params hparams => ?_)
  refine (arrowBody_apt hg).bind fun body hbody => ?_
  refine (node_apt rfl (by simp [hparams, hbody])).bind fun n hn => .pure ?_
  exact h.append_singleton hn

/-- **What stands in brackets.** -/
theorem bracketItems_apt (hg : g.Apt) : Yields (bracketItems g) (Node.AllApt ·.1) := by
  refine .within (.after fun _ => .bind (p := (Node.AllApt ·.1)) ?_ fun _ h => .after fun _ => .pure h)
  refine .loop (Node.AllApt ·.1) Node.allApt_nil ?_
  rintro ⟨out, comma⟩ hout
  refine .after fun _ => .ite (.pure hout) (.after fun isAsync => .after fun start => .after fun _ => ?_)
  refine .after fun stray => .after fun itemStart => .after fun typedName => ?_
  refine .either Node.Apt (typedItem_apt hg) (.within (spreadable_apt hg)) fun item hitem => ?_
  refine (questionItem_apt hg hitem).bind ?_
  rintro ⟨item, optional⟩ hitem
  refine .after fun _ => .either Node.Apt (patternItem_apt hg hitem) (.pure hitem) fun item hitem => ?_
  refine .check₂ fun _ => .after fun _ => ?_
  have hmore : Node.AllApt (out ++ [item]) := hout.append_singleton hitem
  refine .either Node.AllApt (itemArrow_apt hg hmore) (.pure hmore) fun out hout => ?_
  refine .after fun _ => .ite (.pure hout) (.after fun _ => .after fun _ => .ite ?_ (.pure hout))
  exact .after fun _ => .pure hout

/-! ### Arrow functions -/

theorem arrowBeforeColon?_apt (hg : g.Apt) {isAsync : Bool} {items : List Node} {comma : Option Span}
    (h : Node.AllApt items) : Yields (arrowBeforeColon? g start isAsync items comma) Node.MaybeApt := by
  refine .after fun c => .attempt ((resultType_apt hg).bind fun type htype => .after fun _ => ?_)
  refine (parametersOf_apt h).bind fun params hparams => (arrowBody_apt hg).bind fun body hbody => ?_
  refine .after fun _ => .check fun _ => (node_apt rfl ?_).thenSome
  simp [hparams, hbody, htype]

theorem arrowRest_apt (hg : g.Apt) {isAsync : Bool} {items : List Node} {comma : Option Span}
    {type : Option Node} (h : Node.AllApt items) (htype : Node.MaybeApt type) :
    Yields (arrowRest g start isAsync items comma type) Node.Apt := by
  refine .after fun _ => (parametersOf_apt h).bind fun params hparams => ?_
  refine (arrowBody_apt hg).bind fun body hbody => ?_
  refine (node_apt rfl (by simp [hparams, hbody, htype])).bind fun arrow harrow => ?_
  refine .after fun _ => .ite (.after fun _ => .after fun _ => ?_) (.pure harrow)
  exact (binaryRest_apt hg harrow).bind fun expr hexpr => .after fun _ => .check₂ fun _ => .pure hexpr

theorem parenthesized_apt {items : List Node} (h : Node.AllApt items) :
    Yields (parenthesized start items) Node.Apt := by
  refine .after fun _ => ?_
  split
  · exact .after fun _ => .stop
  · exact node_apt rfl h
  · refine node_apt rfl ?_
    simpa using Node.apt_of_parts (f := .sequence _) rfl h

/-- **The expression or arrow function that brackets start.** -/
theorem bracketed_apt (hg : g.Apt) {canBeArrow : Bool} {asyncSpan : Option Span} :
    Yields (bracketed g canBeArrow asyncSpan) Node.Apt := by
  unfold bracketed
  extract_lets -underBinder rest
  have hrest : ∀ n, Yields (rest n) Node.Apt := by
    intro start
    refine (Yields.within (bracketItems_apt hg)).bind ?_
    rintro ⟨items, comma⟩ hitems
    refine .after fun c => .after fun _ => ?_
    extract_lets -underBinder rest
    have hrest : ∀ u, Yields (rest u) Node.Apt := by
      have htype : Yields (attempt do
          let type ← resultType g ":"
          if !(← sees "=>") then unexpected "fail"
          return some type) Node.MaybeApt := by
        refine .attempt ((resultType_apt hg).bind fun type htype => .after fun _ => .check fun _ => ?_)
        exact .pure (Node.maybeApt_some.2 htype)
      -- the brackets hold the parameters of a function where an arrow follows, and else an expression
      refine fun _ => .after fun _ => .either Node.MaybeApt htype (.pure Node.maybeApt_none) ?_
      refine fun type htype => .after fun _ => .ite (.after fun _ => .check₂ fun _ => ?_)
        (.after fun _ => ?_)
      · exact .check₂ fun _ => arrowRest_apt hg hitems htype
      · split
        · refine node_apt rfl ?_
          simpa using ⟨Node.apt_leaf rfl rfl, hitems⟩
        · exact parenthesized_apt hitems
    clear_value rest
    exact .ite (.tried (arrowBeforeColon?_apt hg hitems) (fun _ => .pure) (hrest ())) (hrest ())
  clear_value rest
  split
  · exact .give (hrest _)
  · exact .after hrest

theorem genericAsyncArrow?_apt (hg : g.Apt) : Yields (genericAsyncArrow? g start) Node.MaybeApt := by
  refine .after fun _ => .ite (.pure Node.maybeApt_none) ?_
  -- the head yields three things at once, the parameters of types, those of the function and its type
  refine .bind (p := fun o => ∀ x ∈ o, Node.Apt x.1 ∧ Node.AllApt x.2.1 ∧ Node.MaybeApt x.2.2) ?_ ?_
  · refine .attempt ((typeParams_apt hg).bind fun tps htps => .after fun _ => ?_)
    refine (parameters_apt hg).bind fun params hparams => .after fun _ => .after fun _ => ?_
    refine (Yields.when? (resultType_apt hg)).bind fun type htype => .after fun _ => ?_
    refine .pure fun x hx => ?_
    cases hx
    refine ⟨htps, fun n hn => ?_, htype⟩
    obtain ⟨p, hp, rfl⟩ := List.mem_map.1 hn
    have hparam := hparams p hp
    split
    · next pattern hform =>
      exact hparam.tidy.onlyPart hform rfl rfl
    · exact hparam
  · intro head hhead
    split
    · exact .pure Node.maybeApt_none
    · obtain ⟨htps, hparams, htype⟩ := hhead _ rfl
      refine .within ((arrowBody_apt hg).bind fun body hbody => ?_)
      refine (node_apt rfl ?_).thenSome
      simp_all

end EnvSchema.Script.Read
