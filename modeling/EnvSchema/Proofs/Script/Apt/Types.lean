import EnvSchema.Proofs.Script.Apt.Patterns

/-!
# Types are no properties

* `Read.typeArgs_apt`, `Read.typeParams_apt` — between angle brackets;
* `Read.objectMembers_apt` — the members of an interface or of an object type, which are none of the
  properties of objects;
* `Read.wholeType_apt` — any type.
-/

namespace EnvSchema.Script.Read

variable {g : Grammar} {start : Nat}

-- phrases are built from parts that are known one by one
attribute [local simp] Form.parts

theorem typeAfter?_apt (hg : g.Apt) {m : String} : Yields (typeAfter? g m) Node.MaybeApt :=
  .inType (.after fun _ => .when? hg.type)

theorem typeAfter_apt (hg : g.Apt) {m : String} : Yields (typeAfter g m) Node.Apt := by
  refine .inType (.after fun _ => ?_)
  extract_lets -underBinder rest
  have hrest : ∀ u, Yields (rest u) Node.Apt := fun _ => hg.type
  exact .ite (.after fun _ => .after fun _ => .after hrest) (hrest ())

/-! ### Between angle brackets -/

theorem typeArgs_apt (hg : g.Apt) : Yields (typeArgs g) Node.Apt := by
  refine .after fun start => .bind (p := Node.AllApt) (.inType (.withoutModes (.after fun _ => ?_))) ?_
  · extract_lets -underBinder rest
    have hrest : ∀ u, Yields (rest u) Node.AllApt := fun _ => .commaList hg.type
    exact .ite (.after hrest) (.after hrest)
  · intro args hargs
    refine .after fun _ => .after fun _ => .after fun span => .check fun _ => .pure ?_
    exact Node.apt_of_parts rfl (by simpa using hargs)

theorem plainTypeArgs_apt (hg : g.Apt) : Yields (plainTypeArgs g) Node.Apt := .within (typeArgs_apt hg)

theorem entityName_apt {anyWord : Bool} : Yields (entityName anyWord) Node.Apt := by
  refine name_apt.bind fun first hfirst => ?_
  extract_lets -underBinder rest
  have hrest : ∀ u, Yields (rest u) Node.Apt := by
    refine fun _ => .loop Node.Apt hfirst fun left hleft => .after fun _ => .ite (.pure hleft) ?_
    refine .after fun dot => .after fun _ => .ite (.after fun _ => .pure hleft) ?_
    refine .either Node.Apt name_apt ident_apt fun right hright => .pure ?_
    exact Node.apt_of_parts rfl (by simp [hleft, hright])
  exact .ite (.after fun _ => .after fun _ => .after hrest) (hrest ())

theorem typeReference_apt (hg : g.Apt) : Yields (typeReference g) Node.Apt := by
  refine .after fun start => .after fun stray => entityName_apt.bind fun named hnamed => .after fun _ => ?_
  refine (Yields.when? (plainTypeArgs_apt hg)).bind fun args hargs => .check₂ fun _ => ?_
  exact node_apt rfl (by simpa using ⟨hnamed, hargs⟩)

theorem typeParam_apt (hg : g.Apt) {variance const : Bool} :
    Yields (typeParam g variance const) Node.Apt := by
  refine .after fun start => .after ?_
  rintro ⟨isIn, isOut, isConst⟩
  refine (Yields.inType name_apt).bind fun named hnamed => ?_
  refine (typeAfter?_apt hg).bind fun bound hbound => (typeAfter?_apt hg).bind fun default hdefault => ?_
  exact node_apt rfl (by simp [hnamed, hbound, hdefault])

theorem typeParams_apt (hg : g.Apt) {variance const : Bool} :
    Yields (typeParams g variance const) Node.Apt := by
  refine .inType (.withoutModes (.after fun start => .after fun _ => .check fun _ => .after fun _ => ?_))
  refine (Yields.commaList (typeParam_apt hg)).bind ?_
  refine fun params (hparams : Node.AllApt params) => .after fun _ => ?_
  exact node_apt rfl (by simp [hparams])

theorem typeParams?_apt (hg : g.Apt) {variance const : Bool} :
    Yields (typeParams? g variance const) Node.MaybeApt :=
  .after fun _ => .when? (typeParams_apt hg)

/-! ### Signatures -/

theorem resultType_apt (hg : g.Apt) {m : String} : Yields (resultType g m) Node.Apt := by
  refine .inType (.after fun start => .after fun _ => ?_)
  extract_lets -underBinder rest
  have hrest : ∀ u, Yields (rest u) Node.Apt := by
    refine fun _ => .after fun predStart => .after fun asserts => ?_
    extract_lets -underBinder found
    have hfound : ∀ u, Yields (found u) Node.Apt := by
      refine fun _ => .after fun finds => .ite (typeFrom_apt hg) (name_apt.bind fun v hv => ?_)
      extract_lets -underBinder done
      have hdone : ∀ o, Node.MaybeApt o → Yields (done o) Node.Apt := by
        refine fun o ho => (node_apt rfl (by simp [hv, ho])).bind fun pred hpred => ?_
        exact node_apt rfl (by simp [hpred])
      clear_value done
      refine .ite (.after fun _ => .after fun pos => (typeFrom_apt hg).bind fun type htype => ?_) ?_
      · exact .give (hdone _ (by simp [htype]))
      · exact .give (hdone _ Node.maybeApt_none)
    exact .ite (.after fun _ => .after fun _ => hfound ()) (hfound ())
  exact .ite (.after fun _ => .after fun _ => .after hrest) (hrest ())

theorem signatureParameters_apt (hg : g.Apt) : Yields (signatureParameters g) Node.AllApt := by
  refine (parameters_apt hg).bind fun params hparams => .after fun _ => ?_
  refine .mapM fun p hp => ?_
  have hparam := hparams p hp
  split
  · next pattern hform =>
    have hpattern : pattern.Apt := hparam.tidy.onlyPart hform rfl rfl
    split
    iterate 4 exact .pure hpattern
    exact .unexpected
  · exact .pure hparam

/-- **The parts of a signature**: type parameters, parameters and a type. -/
theorem signature_apt (hg : g.Apt) : Yields (signature g)
    fun x => Node.MaybeApt x.1 ∧ Node.AllApt x.2.1 ∧ Node.MaybeApt x.2.2 := by
  refine (typeParams?_apt hg).bind fun tps htps => .after fun _ => ?_
  refine (signatureParameters_apt hg).bind fun params hparams => .after fun _ => ?_
  exact (Yields.when? (resultType_apt hg)).bind fun type htype => .pure ⟨htps, hparams, htype⟩

theorem indexSignature?_apt (hg : g.Apt) {isReadonly isStatic : Bool} :
    Yields (indexSignature? g start isReadonly isStatic) Node.MaybeApt := by
  refine .after fun _ => .ite (.pure Node.maybeApt_none) (.after fun _ => .after fun idStart => ?_)
  refine name_apt.bind fun id hid => .after fun annStart => .after fun _ => ?_
  extract_lets -underBinder rest
  have hrest : ∀ u, Yields (rest u) Node.MaybeApt := by
    refine fun _ => (typeFrom_apt hg).bind fun type htype => ?_
    refine (node_apt rfl (by simp [htype])).bind fun param hparam => .after fun _ => ?_
    refine (colonType?_apt hg).bind fun type htype => .after fun _ => ?_
    exact (node_apt rfl (by simp [hparam, htype])).thenSome
  exact .ite (.after hrest) (.after hrest)

theorem signatureKey_apt (hg : g.Apt) : Yields (signatureKey g) (·.2.Apt) := by
  refine .after fun _ => .ite (hg.assign.bind fun key hkey => .after fun _ => .pure hkey) ?_
  refine .within (.after fun t => ?_)
  split
  iterate 2 exact (hg.memberOrNew _).bind fun key hkey => .pure hkey
  refine maybePrivateName_apt.bind fun key hkey => ?_
  extract_lets -underBinder done
  have hdone : ∀ u, Yields (done u) (·.2.Apt) := fun _ => .pure hkey
  split
  · exact .after hdone
  · exact hdone ()

theorem propertySignature_apt (hg : g.Apt) {isReadonly : Bool} :
    Yields (propertySignature g start isReadonly) Node.Apt := by
  refine (signatureKey_apt hg).bind ?_
  rintro ⟨computed, key⟩ hkey
  refine .after fun optional => .after fun _ => .ite (.check fun _ => (signature_apt hg).bind ?_) ?_
  · rintro ⟨tps, params, type⟩ ⟨htps, hparams, htype⟩
    exact .after fun _ => node_apt rfl (by simp_all)
  · refine (colonType?_apt hg).bind fun type htype => .after fun _ => ?_
    exact node_apt rfl (by simp_all)

theorem accessorSignature?_apt (hg : g.Apt) {isReadonly : Bool} :
    Yields (accessorSignature? g isReadonly) Node.MaybeApt := by
  refine .attempt (.after fun start => .check fun _ => .after fun isGetter => ?_)
  extract_lets -underBinder rest
  have hrest : ∀ u, Yields (rest u) Node.MaybeApt := by
    refine fun _ => (signatureKey_apt hg).bind ?_
    rintro ⟨computed, key⟩ hkey
    refine .after fun _ => .ite (.after fun _ => ?_) ?_
    · refine (colonType?_apt hg).bind fun type htype => .after fun _ => ?_
      refine (node_apt rfl ?_).thenSome
      simpa using ⟨hkey, htype⟩
    · refine (signatureParameters_apt hg).bind fun params hparams => ?_
      split
      · exact .stopHere
      · next param rest =>
        rw [Node.allApt_cons] at hparams
        refine .after fun _ => (node_apt rfl ?_).thenSome
        simpa using ⟨hkey, hparams.1⟩
  exact .ite (.after hrest) (hrest ())

theorem typeMember_apt (hg : g.Apt) : Yields (typeMember g) Node.Apt := by
  refine .after fun start => .after fun _ => .eitherWay fun constructs => ?_
  refine .ite (.after fun _ => (signature_apt hg).bind ?_) (.after fun _ => .ite ?_ ?_)
  · rintro ⟨tps, params, type⟩ ⟨htps, hparams, htype⟩
    exact .after fun _ => node_apt rfl (by simp_all)
  · refine (signature_apt hg).bind ?_
    rintro ⟨tps, params, type⟩ ⟨htps, hparams, htype⟩
    exact .after fun _ => node_apt rfl (by simp_all)
  · refine .after fun _ => .tried (indexSignature?_apt hg) (fun _ => .pure) ?_
    exact .tried (accessorSignature?_apt hg) (fun _ => .pure) (propertySignature_apt hg)

/-- **The members of an interface or of an object type.** -/
theorem objectMembers_apt (hg : g.Apt) : Yields (objectMembers g) Node.AllApt := by
  refine .after fun _ => .bind (p := Node.AllApt) ?_ fun members hmembers => .after fun _ => .pure hmembers
  refine .loop Node.AllApt Node.allApt_nil fun out hout => .after fun _ => .ite (.pure hout) ?_
  exact (typeMember_apt hg).bind fun n hn => .pure (hout.append_singleton hn)

theorem mappedType_apt (hg : g.Apt) : Yields (mappedType g) Node.Apt := by
  refine .after fun start => .after fun _ => .after fun readonly => ?_
  refine .after fun _ => .after fun paramStart => ?_
  refine name_apt.bind fun named hnamed => (typeAfter_apt hg).bind fun bound hbound => ?_
  refine (node_apt rfl (by simp [hnamed, hbound])).bind fun param hparam => .after fun _ => ?_
  refine (Yields.when? hg.type).bind fun nameType (hname : Node.MaybeApt nameType) => ?_
  refine .after fun _ => .after fun optional => (typeAfter?_apt hg).bind fun type htype => ?_
  exact .after fun _ => .after fun _ => node_apt rfl (by simp [hparam, hname, htype])

/-! ### Tuples and functions -/

theorem tupleLabel?_apt : Yields tupleLabel? Node.MaybeApt := by
  refine .attempt (.after fun start => .after fun isRest => .after fun id => .after fun optional => ?_)
  refine .after fun last => .after fun _ => ?_
  have hlabel : Node.Apt (.mk ⟨id.lo, last⟩ (.binding (id.name?.getD "") optional none)) :=
    Node.apt_leaf rfl rfl
  refine .ite ((node_apt rfl ?_).thenSome) ?_
  · simpa using hlabel
  · exact .pure (Node.maybeApt_some.2 hlabel)

theorem tupleElement_apt (hg : g.Apt) : Yields (tupleElement g) Node.Apt := by
  refine .after fun start => tupleLabel?_apt.bind fun label hlabel => .after fun _ => ?_
  refine .ite (hg.type.bind fun type htype => ?_)
    (hg.type.bind fun type htype => .after fun _ => .ite ?_ ?_)
  iterate 2
    · refine (node_apt rfl (by simp [htype])).bind fun type htype => ?_
      exact node_apt rfl (by simp [hlabel, htype])
  · exact node_apt rfl (by simp [hlabel, htype])

theorem tupleType_apt (hg : g.Apt) : Yields (tupleType g) Node.Apt := by
  refine .after fun start => .after fun _ => (Yields.commaList (tupleElement_apt hg)).bind ?_
  intro elems (helems : Node.AllApt elems)
  exact .after fun _ => .check₂ fun _ => node_apt rfl (by simp [helems])

theorem functionType_apt (hg : g.Apt) {isFunction : Bool} :
    Yields (functionType g isFunction) Node.Apt := by
  refine .after fun start => .eitherWay fun isAbstract => ?_
  refine .check fun _ => (typeParams?_apt hg).bind fun tps htps => .after fun _ => ?_
  refine (signatureParameters_apt hg).bind fun params hparams => ?_
  refine (resultType_apt hg).bind fun type htype => ?_
  exact .ite (node_apt rfl (by simp [htps, hparams, htype]))
    (node_apt rfl (by simp [htps, hparams, htype]))

/-! ### Types without operators -/

theorem importType_apt (hg : g.Apt) : Yields (importType g) Node.Apt := by
  refine .after fun start => .after fun _ => .after fun _ => .after fun _ => .after fun span => ?_
  refine .after fun t => ?_
  extract_lets -underBinder rest
  have hrest : ∀ n : Node, n.Apt → Yields (rest n) Node.Apt := by
    refine fun source hsource => .after fun _ => .after fun _ => .after fun _ => ?_
    refine (Yields.when? entityName_apt).bind fun qualifier (hqualifier : Node.MaybeApt qualifier) => ?_
    refine .after fun _ => (Yields.when? (plainTypeArgs_apt hg)).bind ?_
    refine fun args (hargs : Node.MaybeApt args) => ?_
    exact node_apt rfl (by simp [hsource, hqualifier, hargs])
  clear_value rest
  split
  · exact .after fun _ => .give (hrest _ (Node.apt_leaf rfl rfl))
  · exact .after fun _ => .after fun _ => .give (hrest _ (Node.apt_leaf rfl rfl))

theorem typeQuery_apt (hg : g.Apt) : Yields (typeQuery g) Node.Apt := by
  refine .after fun start => .after fun _ => .after fun _ => ?_
  refine .either Node.Apt (importType_apt hg) entityName_apt fun named hnamed => .after fun _ => ?_
  refine (Yields.when? (plainTypeArgs_apt hg)).bind fun args (hargs : Node.MaybeApt args) => ?_
  exact node_apt rfl (by simp [hnamed, hargs])

theorem thisType_apt : Yields thisType Node.Apt :=
  .after fun _ => .after fun _ => .pure (Node.apt_leaf rfl rfl)

theorem thisPredicate_apt (hg : g.Apt) {asserts : Bool} {this : Node} (h : this.Apt) :
    Yields (thisPredicate g start asserts this) Node.Apt := by
  refine .after fun _ => ?_
  extract_lets -underBinder rest
  have hrest : ∀ o, Node.MaybeApt o → Yields (rest o) Node.Apt := fun o ho =>
    node_apt rfl (by simp [h, ho])
  refine .ite (.after fun pos => (typeFrom_apt hg).bind fun type htype => ?_) ?_
  · exact .give (hrest _ (Node.maybeApt_some.2 htype))
  · exact .give (hrest _ Node.maybeApt_none)

theorem templateType_apt (hg : g.Apt) : Yields (templateType g) Node.Apt := by
  refine .after fun start => .after fun _ => templateText_apt.bind fun first hfirst => ?_
  refine .bind (p := fun x => Node.AllApt x.1 ∧ Node.AllApt x.2) ?_ ?_
  · refine .loop (fun x => Node.AllApt x.1 ∧ Node.AllApt x.2) (by simp [hfirst]) ?_
    rintro ⟨types, pieces⟩ ⟨htypes, hpieces⟩
    dsimp only at htypes hpieces ⊢
    split
    · refine .after fun _ => hg.type.bind fun type htype => .after fun _ => ?_
      exact templateText_apt.bind fun piece hpiece => .pure (by simp_all)
    · exact .pure ⟨htypes, hpieces⟩
  · rintro ⟨types, pieces⟩ ⟨htypes, hpieces⟩
    exact .after fun _ => node_apt rfl (by simp_all)

theorem literalType_apt (hg : g.Apt) : Yields (literalType g) Node.Apt := by
  refine .after fun start => .after fun _ => ?_
  refine .either Node.Apt (templateType_apt hg) literal_apt fun lit hlit => ?_
  exact node_apt rfl (by simp [hlit])

theorem negativeType_apt : Yields negativeType Node.Apt := by
  refine .after fun start => .after fun _ => .after fun t => ?_
  split
  iterate 2
    · refine .after fun span => .after fun _ => node_apt rfl ?_
      simpa using Node.apt_leaf rfl rfl
  · exact .unexpected

theorem wordType_apt (hg : g.Apt) {w : String} : Yields (wordType g w) Node.Apt := by
  refine .after fun start => .after fun _ => .ite ?_ ?_
  · exact .after fun _ => thisType_apt.bind fun this hthis => thisPredicate_apt hg hthis
  · refine .after fun isMember => .ite (.after fun _ => ?_) (typeReference_apt hg)
    exact leaf_apt rfl rfl

theorem simpleType_apt (hg : g.Apt) : Yields (simpleType g) Node.Apt := by
  refine .after fun start => .after fun t => ?_
  split
  iterate 5 exact literalType_apt hg
  · exact importType_apt hg
  · exact typeQuery_apt hg
  · refine thisType_apt.bind fun this hthis => .after fun _ => ?_
    exact .ite (thisPredicate_apt hg hthis) (.pure hthis)
  · exact .ite (wordType_apt hg) .unexpected
  · exact literalType_apt hg
  · exact negativeType_apt
  · refine .after fun _ => .ite (mappedType_apt hg) ?_
    refine (objectMembers_apt hg).bind fun members hmembers => ?_
    exact node_apt rfl (by simp [hmembers])
  · exact tupleType_apt hg
  · refine .after fun _ => hg.type.bind fun type htype => .after fun _ => ?_
    exact node_apt rfl (by simp [htype])
  · exact .unexpected

theorem arrayType_apt (hg : g.Apt) : Yields (arrayType g) Node.Apt := by
  refine (simpleType_apt hg).bind fun first hfirst => .loop Node.Apt hfirst fun type htype => ?_
  refine .after fun _ => .ite (.pure htype) (.after fun _ => .ite ?_ ?_)
  · exact (node_apt rfl (by simp [htype])).bind fun n hn => .pure hn
  · refine hg.type.bind fun index hindex => .after fun _ => ?_
    exact (node_apt rfl (by simp [htype, hindex])).bind fun n hn => .pure hn

theorem inferType_apt {bare : Read Node} (h : Yields bare Node.Apt) :
    Yields (inferType bare) Node.Apt := by
  refine .after fun start => .after fun _ => .after fun paramStart => ?_
  refine name_apt.bind fun named hnamed => .bind (p := Node.MaybeApt) (.attempt ?_) fun bound hbound => ?_
  · refine .after fun _ => h.bind fun bound hbound => .after fun c => .after fun _ => ?_
    exact .ite (.pure (Node.maybeApt_some.2 hbound)) (.pure Node.maybeApt_none)
  · refine (node_apt rfl (by simp [hnamed, hbound])).bind fun param hparam => ?_
    exact node_apt rfl (by simp [hparam])

theorem joined_apt {m : String} {make : List Node → Form Node} {item : Read Node}
    (hmake : ∀ l, (make l).isProperty = false ∧ (make l).parts = l) (h : Yields item Node.Apt) :
    Yields (joined m make item) Node.Apt := by
  refine .after fun start => .after fun _ => h.bind fun first hfirst => .after fun _ => ?_
  refine .ite (.pure hfirst) (.bind (p := Node.AllApt) ?_ fun types htypes => ?_)
  · refine .loop Node.AllApt (by simp [hfirst]) fun out hout => .after fun _ => .ite ?_ (.pure hout)
    exact h.bind fun n hn => .pure (hout.append_singleton hn)
  · refine node_apt (hmake types).1 ?_
    rwa [(hmake types).2]

theorem unconditionalType_apt (hg : g.Apt) : Yields (unconditionalType g) Node.Apt := by
  refine .after fun _ => .after fun _ => ?_
  extract_lets -underBinder rest
  have hrest : ∀ b, Yields (rest b) Node.Apt := by
    refine fun _ => .ite (functionType_apt hg) (.after fun _ => .ite (functionType_apt hg) ?_)
    exact joined_apt (fun _ => ⟨rfl, rfl⟩) (joined_apt (fun _ => ⟨rfl, rfl⟩) hg.operatorType)
  exact .ite (.give (hrest _)) (.ite (.after hrest) (.give (hrest _)))

/-- **A type without operators between operands.** -/
theorem prefixedType_apt (hg : g.Apt) : Yields (prefixedType g) Node.Apt := by
  refine .after fun start => .after fun t => ?_
  split
  · refine .ite (.after fun _ => hg.operatorType.bind fun type htype => ?_) ?_
    · exact node_apt rfl (by simp [htype])
    · exact .ite (inferType_apt (unconditionalType_apt hg)) (arrayType_apt hg)
  · exact arrayType_apt hg

/-- **Any type.** -/
theorem wholeType_apt (hg : g.Apt) : Yields (wholeType g) Node.Apt := by
  refine .after fun start => (unconditionalType_apt hg).bind fun type htype => ?_
  refine .after fun _ => .after fun c => ?_
  refine .ite (.pure htype) (.after fun _ => .ite (.pure htype) ?_)
  refine (Yields.within (unconditionalType_apt hg)).bind fun bound hbound => .after fun _ => ?_
  refine (Yields.within hg.type).bind fun yes hyes => .after fun _ => ?_
  refine (Yields.within hg.type).bind fun no hno => ?_
  exact node_apt rfl (by simp [htype, hbound, hyes, hno])

end EnvSchema.Script.Read
