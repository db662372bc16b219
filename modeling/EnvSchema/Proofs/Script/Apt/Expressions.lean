import EnvSchema.Proofs.Script.Apt.Arrows
import EnvSchema.Script.Reader.Expressions

/-!
# Expressions are no properties

* `Read.subscriptsOf_apt` — members, calls and templates behind an expression;
* `Read.element_apt` — elements;
* `Read.primary_apt`, `Read.unaryOf_apt`, `Read.assignment_apt`, `Read.sequence_apt` — whole expressions.
-/

namespace EnvSchema.Script.Read

variable {g : Grammar} {start : Nat}

-- phrases are built from parts that are known one by one
attribute [local simp] Form.parts

/-! ### Members, calls and templates -/

theorem arguments_apt (hg : g.Apt) {isImport : Bool} : Yields (arguments g isImport) Node.AllApt := by
  refine .within (.after fun start => .after fun _ => .bind (p := Node.AllApt) ?_ fun args hargs => ?_)
  · refine .loop Node.AllApt Node.allApt_nil fun out hout => .after fun _ => .ite (.pure hout) ?_
    extract_lets -underBinder rest
    have hrest : ∀ u, Yields (rest u) (Sum.elim Node.AllApt Node.AllApt) := by
      refine fun _ => (Yields.within (spreadable_apt hg)).bind fun n hn => .pure ?_
      exact hout.append_singleton hn
    clear_value rest
    refine .ite (.after fun _ => .after fun _ => .ite ?_ (hrest ())) (hrest ())
    exact .check₂ fun _ => .pure hout
  · exact .after fun _ => .pure hargs

theorem template_apt (hg : g.Apt) {tagged : Bool} : Yields (template g tagged) Node.Apt := by
  refine .after fun start => .after fun _ => templateText_apt.bind fun first hfirst => ?_
  refine .bind (p := fun x => Node.AllApt x.1 ∧ Node.AllApt x.2) ?_ ?_
  · refine .loop (fun x => Node.AllApt x.1 ∧ Node.AllApt x.2) (by simp [hfirst]) ?_
    rintro ⟨exprs, pieces⟩ ⟨hexprs, hpieces⟩
    dsimp only at hexprs hpieces ⊢
    split
    · refine .after fun _ => hg.exprIn.bind fun expr hexpr => .after fun _ => ?_
      exact templateText_apt.bind fun piece hpiece => .pure (by simp_all)
    · exact .pure ⟨hexprs, hpieces⟩
  · rintro ⟨exprs, pieces⟩ ⟨hexprs, hpieces⟩
    exact .after fun _ => node_apt rfl (by simp_all)

theorem taggedTemplate_apt (hg : g.Apt) {tag : Node} {args : Option Node} (htag : tag.Apt)
    (hargs : Node.MaybeApt args) : Yields (taggedTemplate g tag args) Node.Apt := by
  refine (template_apt hg).bind fun tpl htpl => .after fun span => ?_
  extract_lets -underBinder done
  have hdone : ∀ u, Yields (done u) Node.Apt := fun _ =>
    .pure (Node.apt_of_parts rfl (by simp [htag, hargs, htpl]))
  split
  · exact .after hdone
  · exact hdone ()

theorem instantiationArgs?_apt (hg : g.Apt) : Yields (instantiationArgs? g) Node.MaybeApt := by
  refine .attempt ((typeArgs_apt hg).bind fun args hargs => .after fun _ => .ite ?_ ?_)
  · exact .pure Node.maybeApt_none
  · exact .after fun _ => .ite (.pure (Node.maybeApt_some.2 hargs)) (.pure Node.maybeApt_none)

theorem callOf_apt {callee : Node} {args : List Node} {typeArgs : Option Node} {optional : Bool}
    (hcallee : callee.Apt) (hargs : Node.AllApt args) (htypes : Node.MaybeApt typeArgs) :
    Yields (callOf start callee args typeArgs optional) Node.Apt := by
  refine .after fun span => ?_
  have hcall : Node.Apt (.mk span (.call callee args typeArgs)) :=
    Node.apt_of_parts rfl (by simp [hcallee, hargs, htypes])
  exact .ite (.pure (Node.apt_of_parts rfl (by simp [hcall]))) (.pure hcall)

theorem memberOf_apt {object key : Node} {optional noCall : Bool} (hobject : object.Apt)
    (hkey : key.Apt) : Yields (memberOf start object key optional noCall) Node.Apt := by
  refine .after fun span => .ite ?_ ?_
  · refine .after fun c => .check fun _ => .check fun _ => ?_
    beta_reduce
    extract_lets -underBinder done
    have hdone : ∀ u, Yields (done u) Node.Apt := fun _ =>
      .pure (Node.apt_of_parts rfl (by simp [hobject, hkey]))
    split
    · exact .after fun _ => .after hdone
    · exact hdone ()
  · have hmember : Node.Apt (.mk span (.member object key)) :=
      Node.apt_of_parts rfl (by simp [hobject, hkey])
    refine .ite (.after fun span => .pure ?_) (.pure hmember)
    exact Node.apt_of_parts rfl (by simp [hmember])

theorem angleSubscript?_apt (hg : g.Apt) {obj : Node} {noCall : Bool} (h : obj.Apt) :
    Yields (angleSubscript? g start obj noCall) fun o => ∀ x ∈ o, Node.Apt x.1 := by
  have hsome {n : Node} {b : Bool} (hn : n.Apt) :
      Yields (pure (some (n, b))) fun o => ∀ x ∈ o, Node.Apt x.1 :=
    .pure fun x hx => Option.some.inj hx ▸ hn
  refine .within (.attempt (.after fun _ => ?_))
  extract_lets -underBinder rest
  -- the arguments in angles are followed by a call or a template, or stand alone
  have hrest : ∀ u, Yields (rest u) fun o => ∀ x ∈ o, Node.Apt x.1 := by
    refine fun _ => (typeArgs_apt hg).bind fun args hargs => .after fun _ => .ite ?_ ?_
    · refine (arguments_apt hg).bind fun params hparams => .after fun span => ?_
      have hcall : Node.Apt (.mk span (.call obj params (some args))) :=
        Node.apt_of_parts rfl (by simp [h, hparams, hargs])
      dsimp only
      split
      · exact hsome (Node.apt_of_parts rfl (by simp [hcall]))
      · exact hsome hcall
    · refine .after fun _ => .ite ?_ (.after fun _ => .ite ?_ (.ite .unexpected .unexpected))
      · exact (taggedTemplate_apt hg h (Node.maybeApt_some.2 hargs)).bind fun n hn => hsome hn
      · exact (node_apt rfl (by simp [h, hargs])).bind fun n hn => hsome hn
  clear_value rest
  exact .ite (.tried (genericAsyncArrow?_apt hg) (fun _ => hsome) (hrest ())) (hrest ())

theorem subscript_apt (hg : g.Apt) {obj : Node} {noCall noComputed : Bool} (h : obj.Apt) :
    Yields (subscript g start obj noCall noComputed) (·.1.Apt) := by
  refine .after fun _ => .after fun typed => ?_
  extract_lets -underBinder isExpr rest
  have hrest : ∀ u, Yields (rest u) (·.1.Apt) := by
    refine fun _ => .after fun _ => ?_
    refine .either Node.MaybeApt (instantiationArgs?_apt hg) (.pure Node.maybeApt_none) ?_
    intro args hargs
    beta_reduce
    extract_lets -underBinder instantiate
    -- with arguments in angles an expression is what it was with them put around it
    have hinst : ∀ n : Node, n.Apt → Yields (instantiate n) Node.Apt := by
      intro n hn
      unfold instantiate
      split
      · exact node_apt rfl (by simp_all)
      · exact .pure hn
    clear_value instantiate
    have hmember {key : Node} {optional : Bool} (hkey : key.Apt) :
        Yields (do return (← instantiate (← memberOf start obj key optional noCall), true))
          (·.1.Apt) :=
      (memberOf_apt h hkey).bind fun n hn => (hinst n hn).bind fun n hn => .pure hn
    refine .after fun optional => .check fun _ => .after fun _ => ?_
    extract_lets -underBinder computed
    -- a key in brackets makes a member; without them there is a call, a name or a template
    have hcomputed : ∀ b, Yields (computed b) (·.1.Apt) := by
      refine fun b => .ite (.after fun _ => hg.exprIn.bind fun key hkey => .after fun _ => ?_) ?_
      · exact (node_apt rfl (by simp [hkey])).bind fun key hkey => hmember hkey
      refine .after fun dotted => ?_
      extract_lets -underBinder called
      have hcalled : ∀ b, Yields (called b) (·.1.Apt) := by
        refine fun b => .ite (.after fun _ => ?_) (.after fun _ => .ite ?_ (.ite ?_ ?_))
        · refine .either Node.MaybeApt (typeArgs_apt hg).some_ (.pure Node.maybeApt_none) ?_
          refine fun types htypes => (arguments_apt hg).bind fun params hparams => .check fun _ => ?_
          exact (callOf_apt h hparams htypes).bind fun n hn => .pure hn
        · exact maybePrivateName_apt.bind fun key hkey => .check fun _ => hmember hkey
        · refine (hinst obj h).bind fun expr hexpr => .after fun _ => .ite ?_ (.pure hexpr)
          refine (Yields.within (taggedTemplate_apt hg hexpr Node.maybeApt_none)).bind fun n hn => ?_
          exact .pure hn
        · exact .ite .stopHere .stopHere
      clear_value called
      exact .ite (.after hcalled) (.ite (.give (hcalled _)) (.after hcalled))
    clear_value computed
    exact .ite (.give (hcomputed _)) (.ite (.after fun _ => .after hcomputed) (.after hcomputed))
  clear_value rest
  refine .ite (.after fun _ => .ite (.after fun _ => .after fun _ => .check fun _ => ?_) ?_) (hrest ())
  · refine .check fun _ => (node_apt rfl ?_).bind fun n hn => .pure hn
    simp [h]
  · refine .after fun _ => .ite ?_ (hrest ())
    exact .tried (angleSubscript?_apt hg h) (fun _ hn => .pure hn) (hrest ())

/-- **The members, calls and templates behind an expression.** -/
theorem subscriptsOf_apt (hg : g.Apt) {obj : Node} {noCall noComputed : Bool} (h : obj.Apt) :
    Yields (subscriptsOf g obj noCall noComputed) Node.Apt := by
  refine .loop Node.Apt h fun node hnode => (subscript_apt hg hnode).bind ?_
  rintro ⟨node, more⟩ hnode
  exact .ite (.pure hnode) (.pure hnode)

theorem importExpr_apt (hg : g.Apt) {noCall : Bool} : Yields (importExpr g start noCall) Node.Apt := by
  have hsubscripts {f : Form Node} (hf : f.isProperty = false) (h : f.parts = []) :
      Yields (nodeFrom start f >>= fun node => g.subscripts node noCall false) Node.Apt :=
    (leaf_apt hf h).bind fun n hn => hg.subscripts _ _ _ hn
  refine .after fun _ => .ite (.after fun w => ?_) (hsubscripts rfl rfl)
  split
  iterate 3 exact hsubscripts rfl rfl
  exact .unexpected

/-! ### Elements -/

theorem tagIdent_apt : Yields tagIdent Node.Apt := by
  refine .after fun t => ?_
  split
  · exact .after fun _ => .after fun _ => .pure (Node.apt_leaf rfl rfl)
  · exact .after fun _ => .ite identRef_apt .unexpected

theorem namespacedName_apt : Yields namespacedName Node.Apt := by
  refine .after fun start => tagIdent_apt.bind fun first hfirst => .after fun _ => .ite (.pure hfirst) ?_
  refine tagIdent_apt.bind fun second hsecond => .pure ?_
  exact Node.apt_of_parts rfl (by simp [hfirst, hsecond])

theorem elementTagName_apt : Yields elementTagName Node.Apt := by
  refine .after fun start => namespacedName_apt.bind fun first hfirst => ?_
  refine .loop Node.Apt hfirst fun node hnode => .after fun _ => .ite (.pure hnode) ?_
  refine tagIdent_apt.bind fun key hkey => ?_
  exact (node_apt rfl (by simp [hnode, hkey])).bind fun n hn => .pure hn

theorem container_apt (hg : g.Apt) : Yields (container g) Node.Apt := by
  refine .after fun start => .after fun _ => .after fun _ => ?_
  extract_lets -underBinder done
  have hdone : ∀ n : Node, n.Apt → Yields (done n) Node.Apt := fun n hn =>
    .after fun _ => node_apt rfl (by simp [hn])
  exact .ite (.after fun pos => .give (hdone _ (Node.apt_leaf rfl rfl))) (hg.expr.bind hdone)

theorem attributeValue_apt (hg : g.Apt) : Yields (attributeValue g) Node.Apt := by
  refine .after fun start => .after fun t => ?_
  split
  · refine (container_apt hg).bind fun node hnode => ?_
    extract_lets -underBinder done
    have hdone : ∀ u, Yields (done u) Node.Apt := fun _ => .pure hnode
    split
    · exact .after fun _ => .after hdone
    · exact hdone ()
  · exact literal_apt
  · exact hg.element
  · exact .after fun _ => .stop

theorem attribute_apt (hg : g.Apt) : Yields (attribute_ g) Node.Apt := by
  refine .after fun start => .after fun _ => .ite (.after fun dots => .after fun _ => ?_) ?_
  · refine hg.assign.bind fun expr hexpr => .after fun _ => .pure ?_
    exact Node.apt_of_parts rfl (by simp [hexpr])
  refine namespacedName_apt.bind fun named hnamed => .after fun _ => ?_
  extract_lets -underBinder done
  have hdone : ∀ o, Node.MaybeApt o → Yields (done o) Node.Apt := fun o ho =>
    node_apt rfl (by simp [hnamed, ho])
  refine .ite ((Yields.within (attributeValue_apt hg)).bind fun value hvalue => ?_) ?_
  · exact .give (hdone _ (Node.maybeApt_some.2 hvalue))
  · exact .give (hdone _ Node.maybeApt_none)

theorem openingTag_apt (hg : g.Apt) : Yields (openingTag g start) Node.MaybeApt := by
  refine .after fun _ => .ite (.pure Node.maybeApt_none) ?_
  refine (Yields.within elementTagName_apt).bind fun named hnamed => .after fun _ => ?_
  have htypes : Yields (attempt (some <$> typeArgs g)) Node.MaybeApt := .attempt (typeArgs_apt hg).some_
  refine .either Node.MaybeApt htypes (.pure Node.maybeApt_none) fun args hargs => ?_
  refine .bind (p := Node.AllApt) ?_ fun attrs hattrs => .after fun selfClosing => ?_
  · refine .loop Node.AllApt Node.allApt_nil fun out hout => .after fun t => ?_
    split
    iterate 3 exact .pure hout
    exact (attribute_apt hg).bind fun n hn => .pure (hout.append_singleton hn)
  · refine .after fun _ => .after fun ended => .check fun _ => (node_apt rfl ?_).bind fun n hn => ?_
    · simp [hnamed, hattrs, hargs]
    · exact .pure (Node.maybeApt_some.2 hn)

theorem closingTag_apt : Yields (closingTag start) (Node.MaybeApt ·.2) := by
  refine .after fun _ => .ite (.after fun span => .pure Node.maybeApt_none) ?_
  refine elementTagName_apt.bind fun named hnamed => .after fun _ => ?_
  have hend : Yields (do
      let node ← nodeFrom start (.elementClosing named)
      return (node.span, some node)) (Node.MaybeApt ·.2) :=
    (node_apt rfl (by simp [hnamed])).bind fun n hn => .pure (Node.maybeApt_some.2 hn)
  exact .ite (.after fun _ => .after fun _ => .after fun _ => hend) hend

theorem children_apt (hg : g.Apt) :
    Yields (children g) fun x => Node.AllApt x.1 ∧ Node.MaybeApt x.2.2 := by
  have hmore {out : List Node} {n : Node} (hout : Node.AllApt out) (hn : n.Apt) :
      Node.AllApt (out ++ [n]) := hout.append_singleton hn
  refine .loop Node.AllApt Node.allApt_nil fun out hout => .after fun t => ?_
  split
  · refine .after fun start => .after fun _ => .ite (.after fun _ => .after fun _ => ?_) ?_
    · refine closingTag_apt.bind ?_
      rintro ⟨span, closing⟩ hclosing
      exact .pure ⟨hout, hclosing⟩
    · exact hg.element.bind fun n hn => .pure (hmore hout hn)
  · exact .after fun _ => .after fun _ => .pure (hmore hout (Node.apt_leaf rfl rfl))
  · refine .after fun _ => .ite (.after fun start => .after fun _ => .after fun _ => ?_) ?_
    · refine hg.expr.bind fun expr hexpr => .after fun _ => ?_
      exact (node_apt rfl (by simp [hexpr])).bind fun n hn => .pure (hmore hout hn)
    · exact (container_apt hg).bind fun n hn => .pure (hmore hout hn)
  · exact .unexpected

/-- **An element with its children.** -/
theorem element_apt (hg : g.Apt) : Yields (element g) Node.Apt := by
  refine .after fun start => .after fun _ => .after fun _ => .within ((openingTag_apt hg).bind ?_)
  intro opening hopening
  split
  · refine (children_apt hg).bind ?_
    rintro ⟨kids, span, closing⟩ ⟨hkids, -⟩
    exact .check fun _ => node_apt rfl hkids
  · have hopening := Node.maybeApt_some.1 hopening
    split
    · exact node_apt rfl (by simp [hopening])
    · refine (children_apt hg).bind ?_
      rintro ⟨kids, span, closing⟩ ⟨hkids, hclosing⟩
      exact .check fun _ => node_apt rfl (by simp_all)
    · exact .pure hopening

/-! ### What an expression starts with -/

theorem array_apt (hg : g.Apt) : Yields (array g) Node.Apt := by
  refine .after fun start => .after fun _ => .bind (p := Node.ElemsApt) ?_ fun elems helems => ?_
  · refine .loop Node.ElemsApt Node.elemsApt_nil fun out hout => .after fun _ => .ite (.pure hout) ?_
    refine .after fun _ => .ite (.pure (by simpa using hout)) ?_
    refine (Yields.within (spreadable_apt hg)).bind fun elem helem => .after fun _ => ?_
    have hmore : Node.ElemsApt (out ++ [some elem]) := hout.append_singleton helem
    refine .ite (.after fun _ => .after fun _ => .ite ?_ (.pure hmore)) (.pure hmore)
    exact .after fun _ => .pure hmore
  · exact .after fun _ => node_apt rfl (by simp [helems])

theorem regexp_apt : Yields regexp Node.Apt := by
  refine .after fun start => .after fun _ => .after fun _ => .after fun t => ?_
  split
  · next body flags =>
    refine .after fun _ => .after fun _ => .after fun span => ?_
    have hnode : Node.Apt (.mk span (.regexp body flags)) := Node.apt_leaf rfl rfl
    refine .check fun _ => ?_
    dsimp only
    split
    · exact .after fun _ => .pure hnode
    · exact .pure hnode
  · exact .after fun _ => .stop

theorem nameOrArrow_apt (hg : g.Apt) {canBeArrow : Bool} :
    Yields (nameOrArrow g start canBeArrow) Node.Apt := by
  have harrow {param : Node} (isAsync : Bool) (h : param.Apt) :
      Yields (do
        let body ← arrowBody g isAsync param.isPlainParam
        nodeFrom start (.arrow isAsync [param] body none none)) Node.Apt :=
    (arrowBody_apt hg).bind fun body hbody => node_apt rfl (by simp [h, hbody])
  refine identRef_apt.bind fun id hid => .after fun _ => .ite (.after fun c => ?_) ?_
  · refine .after fun _ => .ite (.ite (.after fun _ => .after fun _ => .pure hid) (.pure hid)) ?_
    refine bindingIdent_apt.bind fun param hparam => .after fun _ => .ite ?_ (.after fun _ => ?_)
    · refine (Yields.inType hg.type).bind fun type htype => ?_
      exact node_apt rfl (by simp [hid, htype])
    · exact harrow true hparam
  · exact .after fun _ => .ite (.after fun _ => .check fun _ => harrow false bindingOf_apt) (.pure hid)

theorem asyncPrimary?_apt (hg : g.Apt) {canBeArrow : Bool} :
    Yields (asyncPrimary? g canBeArrow) Node.MaybeApt := by
  refine .after fun _ => .ite (.after fun start => .after fun _ => ?_) (.after fun _ => ?_)
  · exact (functionExpr_apt hg).thenSome
  extract_lets -underBinder rest
  have hrest : ∀ u, Yields (rest u) Node.MaybeApt := by
    refine fun _ => .after fun _ => .ite (.after fun _ => .after fun _ => ?_) (.pure Node.maybeApt_none)
    exact (bracketed_apt hg).thenSome
  refine .ite (.bind (p := Node.MaybeApt) (.attempt ?_) fun arrow harrow => ?_) (hrest ())
  · exact .after fun start => .after fun _ => genericAsyncArrow?_apt hg
  · exact .ite (.pure harrow) (hrest ())

/-- **What an expression starts with.** -/
theorem primary_apt (hg : g.Apt) : Yields (primary g) Node.Apt := by
  refine .after fun start => .after fun _ => .after fun t => ?_
  -- one case for each kind of token that an expression can begin with
  split
  · exact .after fun _ => leaf_apt rfl rfl
  · exact array_apt hg
  · exact object_apt hg
  · exact functionExpr_apt hg
  iterate 6 exact literal_apt
  iterate 2 exact regexp_apt
  · exact template_apt hg
  · exact bracketed_apt hg
  · exact classExpr_apt hg
  · refine .after fun _ => ?_
    extract_lets -underBinder rest
    have hrest : ∀ u, Yields (rest u) Node.Apt := by
      refine fun _ => .after fun _ => .ite (nameOrArrow_apt hg) (.after fun _ => .ite ?_ ?_)
      · exact .after fun n => leaf_apt rfl rfl
      · exact .after fun _ => .after fun _ => .stop
    exact .ite (.tried (asyncPrimary?_apt hg) (fun _ => .pure) (hrest ())) (hrest ())

/-! ### Members, calls and one operand -/

theorem newRest_apt (hg : g.Apt) {isNew : Bool} : Yields (newRest g start isNew) Node.Apt := by
  refine .after fun _ => ?_
  extract_lets -underBinder rest
  -- the callee is followed by its arguments, or by none, and then by whatever is asked of the object
  have hrest : ∀ u, Yields (rest u) Node.Apt := by
    refine fun _ => (hg.memberOrNew _).bind fun callee hcallee => .after fun _ => .ite (.pure hcallee) ?_
    refine .check fun _ => .after fun _ => ?_
    have htypes : Yields (attempt do
        let args ← plainTypeArgs g
        if !(← sees "(") then expect "("
        return some args) Node.MaybeApt := by
      refine .attempt ((plainTypeArgs_apt hg).bind fun args hargs => .after fun _ => .check fun _ => ?_)
      exact .pure (Node.maybeApt_some.2 hargs)
    refine .either Node.MaybeApt htypes (.pure Node.maybeApt_none) fun args hargs => .after fun _ => ?_
    refine .ite ((arguments_apt hg).bind fun params hparams => ?_) ?_
    · refine (node_apt rfl ?_).bind fun node hnode => hg.subscripts _ _ _ hnode
      simp [hcallee, hparams, hargs]
    · exact node_apt rfl (by simp [hcallee, hargs])
  clear_value rest
  refine .ite (.after fun _ => .ite ?_ (.after hrest)) (hrest ())
  refine (leaf_apt rfl rfl).bind fun node hnode => .after fun c => .check fun _ => ?_
  exact hg.subscripts _ _ _ hnode

/-- **An expression with members.** -/
theorem memberOrNewOf_apt (hg : g.Apt) {isNew : Bool} : Yields (memberOrNewOf g isNew) Node.Apt := by
  refine .within (.after fun start => .after fun _ => .ite (newRest_apt hg) (.after fun _ => .ite ?_ ?_))
  · exact (leaf_apt rfl rfl).bind fun node hnode => hg.subscripts _ _ _ hnode
  refine .after fun _ => .ite (importExpr_apt hg) ?_
  refine (primary_apt hg).bind fun obj hobj => .after fun _ => .ite (.pure hobj) (.after fun _ => ?_)
  refine .either Node.MaybeApt (instantiationArgs?_apt hg) (.pure Node.maybeApt_none) ?_
  intro args hargs
  beta_reduce
  extract_lets -underBinder rest
  have hrest : ∀ n : Node, n.Apt → Yields (rest n) Node.Apt := fun n hn => hg.subscripts _ _ _ hn
  split
  · exact (node_apt rfl (by simp_all)).bind hrest
  · exact .give (hrest _ hobj)

/-- **An expression with members and calls.** -/
theorem leftHandOf_apt (hg : g.Apt) : Yields (leftHandOf g) Node.Apt := by
  refine .after fun start => .after fun _ => ?_
  extract_lets -underBinder rest
  have hrest : ∀ u, Yields (rest u) Node.Apt := by
    refine fun _ => .after fun _ => .ite ?_ (.after fun _ => .ite (importExpr_apt hg) ?_)
    · exact (leaf_apt rfl rfl).bind fun node hnode => hg.subscripts _ _ _ hnode
    refine (hg.memberOrNew _).bind fun callee hcallee => .after fun _ => .ite (.pure hcallee) ?_
    have htypes : Yields (attempt do
        let args ← typeArgs g
        if ← sees "(" then return some args else return none) Node.MaybeApt := by
      refine .attempt ((typeArgs_apt hg).bind fun args hargs => .after fun _ => .ite ?_ ?_)
      · exact .pure (Node.maybeApt_some.2 hargs)
      · exact .pure Node.maybeApt_none
    refine .after fun _ => .either Node.MaybeApt htypes (.pure Node.maybeApt_none) fun args hargs => ?_
    -- a callee that has arguments in angles already hands them over to the call
    split
    · next inner types hform =>
      have hinner : Node.AllApt (inner :: types.toList) := hcallee.tidy.parts hform rfl
      refine .check fun _ => .ite (.pure (Node.apt_of_parts rfl ?_)) (.pure hcallee)
      simp_all
    · refine .after fun _ => .ite ((arguments_apt hg).bind fun params hparams => ?_) ?_
      · refine (callOf_apt hcallee hparams hargs).bind fun call hcall => hg.subscripts _ _ _ hcall
      · exact .check fun _ => .pure hcallee
  clear_value rest
  refine .ite (.after fun t => ?_) (hrest ())
  split
  · exact .after fun _ => leaf_apt rfl rfl
  · exact hg.element
  · exact .after fun _ => .ite hg.element (hrest ())

theorem awaitExpr_apt (hg : g.Apt) : Yields (awaitExpr g) Node.Apt := by
  refine .after fun start => .after fun _ => .after fun span => .after fun _ => .check fun _ => ?_
  refine .after fun c => .after fun _ => .ite (.check fun _ => .pure (Node.apt_leaf rfl rfl)) ?_
  refine .check₂ fun _ => .check fun _ => hg.unary.bind fun arg harg => ?_
  exact node_apt rfl (by simp [harg])

theorem unaryOperator_apt (hg : g.Apt) {op : String} : Yields (unaryOperator g start op) Node.Apt := by
  refine .after fun _ => .after fun pos => hg.unary.outcome.bind fun o ho => ?_
  extract_lets -underBinder rest
  have hrest : ∀ n : Node, n.Apt → Yields (rest n) Node.Apt := by
    refine fun n hn => .check fun _ => .pure ?_
    exact Node.apt_of_parts rfl (by simp [hn])
  clear_value rest
  split
  · exact .give (hrest _ (ho _ rfl))
  · exact .after fun _ => .give (hrest _ (Node.apt_leaf rfl rfl))

/-- **An expression with one operand at most.** -/
theorem unaryOf_apt (hg : g.Apt) : Yields (unaryOf g) Node.Apt := by
  refine .after fun start => .after fun _ => .ite (.after fun _ => .ite (.after fun _ => ?_) ?_) ?_
  · refine hg.unary.bind fun expr hexpr => ?_
    exact node_apt rfl (by simp [hexpr])
  · refine (Yields.inType hg.type).bind fun type htype => .after fun _ => ?_
    refine hg.unary.bind fun expr hexpr => ?_
    exact node_apt rfl (by simp [hexpr, htype])
  refine .after fun t => ?_
  split
  iterate 2
    · refine .after fun _ => .after fun _ => hg.unary.bind fun arg harg => .after fun _ => .pure ?_
      exact Node.apt_of_parts rfl (by simp [harg])
  iterate 7 exact unaryOperator_apt hg
  · exact awaitExpr_apt hg
  · refine hg.leftHand.bind fun expr hexpr => .after fun _ => .ite (.pure hexpr) ?_
    refine .after fun _ => .ite (.pure hexpr) (.after fun _ => .ite ?_ (.pure hexpr))
    refine .after fun _ => .after fun _ => .after fun _ => ?_
    exact node_apt rfl (by simp [hexpr])

/-! ### Whole expressions -/

theorem yieldExpr_apt (hg : g.Apt) : Yields (yieldExpr g) Node.Apt := by
  refine .after fun start => .after fun _ => .after fun c => .check₂ fun _ => .after fun starts => ?_
  refine .after fun _ => .ite (leaf_apt rfl rfl) (.after fun isDelegate => ?_)
  refine hg.assign.bind fun arg harg => ?_
  exact node_apt rfl (by simp [harg])

theorem assignmentBase_apt (hg : g.Apt) : Yields (assignmentBase g) Node.Apt := by
  refine .after fun _ => .after fun _ => .ite (yieldExpr_apt hg) (.after fun t => .after fun start => ?_)
  refine .after fun _ => (conditional_apt hg).bind fun expr hexpr => .after fun _ => .ite (.pure hexpr) ?_
  split
  iterate 4 exact .pure hexpr
  exact assignmentRest_apt hg hexpr

/-- **An expression up to a comma.** -/
theorem assignment_apt (hg : g.Apt) : Yields (assignment g) Node.Apt := by
  refine .after fun _ => ?_
  extract_lets -underBinder rest
  have hrest : ∀ u, Yields (rest u) Node.Apt := by
    refine fun _ => .after fun starts => .ite ?_ (assignmentBase_apt hg)
    refine .tried (.within (.attempt (.after fun _ => ?_))) (fun _ => .pure) (assignmentBase_apt hg)
    -- an arrow function with parameters of types is tried first, and else an expression is read
    extract_lets -underBinder generic
    have hgeneric : ∀ u, Yields (generic u) Node.MaybeApt := by
      refine fun _ => (typeParams_apt hg).bind fun tps htps => ?_
      refine (assignmentBase_apt hg).bind fun node hnode => ?_
      split
      · next isAsync params body _ type hform =>
        have hparts := hnode.tidy.parts hform rfl
        refine .pure (Node.maybeApt_some.2 (Node.apt_of_parts rfl ?_))
        simp_all
      · exact .unexpected
    exact .ite (.after fun _ => .ite (.after hgeneric) (hgeneric ())) (hgeneric ())
  clear_value rest
  have helement : Yields (attempt (some <$> assignmentBase g)) Node.MaybeApt :=
    .attempt (assignmentBase_apt hg).some_
  exact .ite (.tried helement (fun _ => .pure) (.after hrest)) (hrest ())

/-- **Expressions with commas between them.** -/
theorem sequence_apt (hg : g.Apt) : Yields (sequence g) Node.Apt := by
  refine .after fun start => hg.assign.bind fun first hfirst => .after fun _ => .ite (.pure hfirst) ?_
  refine .bind (p := Node.AllApt) ?_ fun exprs hexprs => node_apt rfl hexprs
  refine .loop Node.AllApt (by simp [hfirst]) fun out hout => .after fun _ => .ite ?_ (.pure hout)
  exact hg.assign.bind fun n hn => .pure (hout.append_singleton hn)

end EnvSchema.Script.Read
