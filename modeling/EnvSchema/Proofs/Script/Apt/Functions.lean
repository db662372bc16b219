import EnvSchema.Proofs.Script.Apt.Types
import EnvSchema.Script.Reader.Classes
import EnvSchema.Script.Reader.Objects
import Mathlib.Tactic.DefEqTransformations

/-!
# Functions, classes and objects

* `Read.functionRest_apt`, `Read.function_apt` — functions are no properties;
* `Read.classMember_apt`, `Read.classRest_apt` — nor are classes and their members;
* `Read.objectProperty_tidy` — a property of an object is the one phrase that may not stand elsewhere;
* `Read.object_apt` — an object takes its properties, and may stand anywhere itself.
-/

namespace EnvSchema.Script.Read

variable {g : Grammar} {start : Nat} {α : Type} {step : Read α} {p : α → Prop}

-- phrases are built from parts that are known one by one
attribute [local simp] Form.parts

/-- A phrase that has been read with the name before it, if there was one. -/
def NamedApt (x : Option Node × Node) : Prop := Node.MaybeApt x.1 ∧ x.2.Apt

/-! ### Functions -/

theorem freshBody_yields (h : Yields step p) : Yields (freshBody step) p :=
  .after fun _ => .after fun _ => h.outcome.bind fun _ ho => .after fun _ => .settle ho

theorem asBody_yields {isAsync isGenerator isArrow : Bool} (h : Yields step p) :
    Yields (asBody isAsync isGenerator isArrow step) p :=
  .after fun _ => .after fun _ => .check₂ fun _ => .within (freshBody_yields h)

theorem asPlainFunction_yields (h : Yields step p) : Yields (asPlainFunction step) p := .within h

theorem functionBody?_apt (hg : g.Apt) {isAsync isGenerator isPlain : Bool} :
    Yields (functionBody? g isAsync isGenerator isPlain) Node.MaybeApt := by
  refine asBody_yields (.after fun _ => .ite (.pure Node.maybeApt_none) ?_)
  refine (Yields.within (hg.block _)).bind fun body hbody => .after fun _ => ?_
  exact .pure (Node.maybeApt_some.2 hbody)

theorem arrowBody_apt (hg : g.Apt) {isAsync isPlain : Bool} :
    Yields (arrowBody g isAsync isPlain) Node.Apt := by
  refine asBody_yields (.after fun _ => .ite ?_ hg.assign)
  exact (hg.block _).bind fun body hbody => .after fun _ => .pure hbody

theorem functionTypeParams?_apt (hg : g.Apt) : Yields (functionTypeParams? g) Node.MaybeApt := by
  refine .after fun _ => .ite (.pure Node.maybeApt_none) (.inType (.after fun _ => .ite ?_ ?_))
  · exact (typeParams_apt hg).thenSome
  · refine .after fun _ => .ite (.after fun _ => ?_) (.pure Node.maybeApt_none)
    exact (typeParams_apt hg).thenSome

/-- **Parameters, type and body of a function.** -/
theorem functionRest_apt (hg : g.Apt) {params : Read (List Node)} (h : Yields params Node.AllApt)
    {isAsync isGenerator : Bool} :
    Yields (functionRest g start params isAsync isGenerator) Node.Apt := by
  refine .within ((functionTypeParams?_apt hg).bind fun tps htps => .after fun _ => ?_)
  refine (Yields.within h).bind fun params hparams => .after fun _ => .after fun _ => ?_
  refine (Yields.when? (resultType_apt hg)).bind fun type (htype : Node.MaybeApt type) => ?_
  refine (functionBody?_apt hg).bind fun body hbody => .after fun _ => .check fun _ => ?_
  exact node_apt rfl (by simp [htps, hparams, htype, hbody])

theorem function_apt (hg : g.Apt) {asyncStart : Option Nat} {isExpr needsName : Bool} :
    Yields (function g asyncStart isExpr needsName) NamedApt := by
  have hnamed : Yields (if needsName then return some (← bindingIdent false) else bindingIdent? false)
      Node.MaybeApt := .ite bindingIdent_apt.thenSome bindingIdent?_apt
  unfold function
  extract_lets -underBinder rest
  have hrest : ∀ n, Yields (rest n) NamedApt := by
    refine fun start => .after fun _ => .after fun isGenerator => ?_
    refine .bind (asPlainFunction_yields (.ite (.within hnamed) hnamed)) fun named hnamed => ?_
    refine asPlainFunction_yields (.within ?_)
    refine (functionRest_apt hg (parameters_apt hg)).bind fun rest hrest => ?_
    extract_lets -underBinder done
    -- what is tested before the end does not change what is yielded
    have hdone : ∀ u, Yields (done u) NamedApt := fun _ =>
      .pure ⟨hnamed, hrest⟩
    clear_value done
    refine .ite ?_ (hdone ())
    split
    · exact .after hdone
    · exact hdone ()
  clear_value rest
  split
  · exact .give (hrest _)
  · exact .after hrest

theorem functionExpr_apt (hg : g.Apt) {asyncStart : Option Nat} :
    Yields (functionExpr g asyncStart) Node.Apt := by
  unfold functionExpr
  extract_lets -underBinder rest
  have hrest : ∀ n, Yields (rest n) Node.Apt := by
    refine fun start => (function_apt hg).bind ?_
    rintro ⟨named, rest⟩ ⟨hnamed, hrest⟩
    exact node_apt rfl (by simp_all)
  clear_value rest
  split
  · exact .give (hrest _)
  · exact .after hrest

theorem functionDecl_apt (hg : g.Apt) {asyncStart : Option Nat} :
    Yields (functionDecl g asyncStart) Node.Apt := by
  unfold functionDecl
  extract_lets -underBinder rest
  have hrest : ∀ n, Yields (rest n) Node.Apt := by
    refine fun start => (function_apt hg).bind ?_
    rintro ⟨named, rest⟩ ⟨hnamed, hrest⟩
    exact node_apt rfl (by simp_all)
  clear_value rest
  split
  · exact .give (hrest _)
  · exact .after hrest

theorem getterParameters_apt (hg : g.Apt) {span : Span} :
    Yields (getterParameters g span) Node.AllApt :=
  (parameters_apt hg).bind fun _ hparams => .check fun _ => .pure hparams

theorem setterParameters_apt (hg : g.Apt) {span : Span} :
    Yields (setterParameters g span) Node.AllApt := by
  refine (parameters_apt hg).bind fun params hparams => .check fun _ => ?_
  dsimp only
  split
  · exact .ite (.after fun _ => .pure hparams) (.pure hparams)
  · exact .pure hparams

/-! ### Classes -/

theorem field_apt (hg : g.Apt) {head : MemberHead} {key : Node} (hkey : key.Apt) :
    Yields (field g head key) Node.Apt := by
  unfold field
  refine .check fun _ => ?_
  -- behind a check the continuation is applied to its answer: its own function is not in front yet
  beta_reduce
  extract_lets -underBinder rest
  have hrest : ∀ u, Yields (rest u) Node.Apt := by
    refine fun _ => .after fun typed => .eitherWay fun definite => ?_
    refine (colonType?_apt hg).bind fun type htype => .within (.after fun _ => ?_)
    refine (Yields.when? hg.assign).bind fun value (hvalue : Node.MaybeApt value) => .after fun _ => ?_
    refine .check₂ fun _ => .after fun span => ?_
    have hnode : ∀ m, Node.Apt (.mk span (.field head.isAccessor m key value type)) := fun m =>
      Node.apt_of_parts rfl (by simp [hkey, hvalue, htype])
    exact .ite (.check fun _ => .pure (hnode _)) (.check fun _ => .pure (hnode _))
  clear_value rest
  exact .ite (.check fun _ => .check hrest) (hrest ())

theorem method_apt (hg : g.Apt) {head : MemberHead} {key : Node} (hkey : key.Apt) {kind : MethodKind}
    {params : Read (List Node)} (h : Yields params Node.AllApt) {isAsync isGenerator : Bool} :
    Yields (method g head key kind params isAsync isGenerator) Node.Apt := by
  refine (Yields.within (functionRest_apt hg h)).bind fun f hf => .after fun span => ?_
  extract_lets -underBinder done
  have hdone : ∀ u, Yields (done u) Node.Apt := fun _ =>
    .pure (Node.apt_of_parts rfl (by simp [hkey, hf]))
  clear_value done
  refine .ite (.ite (.after hdone) (hdone ())) (.ite ?_ (hdone ()))
  split
  · exact .after hdone
  · exact hdone ()

theorem classConstructor_apt (hg : g.Apt) {head : MemberHead} {key : Node} (hkey : key.Apt) :
    Yields (classConstructor g head key) Node.Apt := by
  refine .after fun typed => .check₂ fun _ => .after fun _ => .after fun _ => ?_
  refine (constructorParameters_apt hg).bind fun params hparams => .after fun _ => .after fun _ => ?_
  extract_lets -underBinder rest
  have hrest : ∀ u, Yields (rest u) Node.Apt := by
    refine fun _ => (functionBody?_apt hg).bind fun body hbody => ?_
    have hnode : Yields (nodeFrom head.start (.constructor head.modifiers key params body)) Node.Apt :=
      node_apt rfl (by simp [hkey, hparams, hbody])
    -- whatever is reported of the modifiers and the parameters, the node is the same
    extract_lets -underBinder checked
    have hchecked : ∀ u, Yields (checked u) Node.Apt := by
      intro u
      unfold checked
      extract_lets -underBinder done
      have hdone : ∀ u, Yields (done u) Node.Apt := by
        intro u
        unfold done
        split
        · exact .check fun _ => hnode
        · exact hnode
      split
      · exact .after hdone
      · exact hdone ()
    exact .ite (.after fun _ => .after fun _ => .ite (.after hchecked) (hchecked ())) (hchecked ())
  refine .ite ((colonType_apt hg).bind fun type htype => ?_) (hrest ())
  split
  · exact .after hrest
  · exact hrest ()

theorem staticBlock_apt (hg : g.Apt) : Yields (staticBlock g start) Node.Apt := by
  refine (Yields.within (hg.block _)).bind fun body hbody => ?_
  exact node_apt rfl (by simp [hbody])

theorem accessor_apt (hg : g.Apt) {head : MemberHead} {word : Node} :
    Yields (accessor g head word) Node.Apt := by
  refine (memberKey_apt hg).bind fun key hkey => .check fun _ => .check fun _ => ?_
  exact .ite (method_apt hg hkey (getterParameters_apt hg)) (method_apt hg hkey (setterParameters_apt hg))

theorem asyncMethod_apt (hg : g.Apt) {head : MemberHead} : Yields (asyncMethod g head) Node.Apt := by
  refine .after fun _ => ?_
  extract_lets -underBinder rest
  have hrest : ∀ h, Yields (rest h) Node.Apt := by
    refine fun head => .after fun isGenerator => (memberKey_apt hg).bind fun key hkey => ?_
    refine .check fun _ => .check₂ fun _ => .after fun optional => ?_
    exact method_apt hg hkey (parameters_apt hg)
  exact .ite (.after fun _ => .after fun _ => .give (hrest _)) (.give (hrest _))

theorem keyedMember_apt (hg : g.Apt) {head : MemberHead} : Yields (keyedMember g head) Node.Apt := by
  unfold keyedMember
  extract_lets -underBinder rest
  have hrest : ∀ key : Node, key.Apt → Yields (rest key) Node.Apt := by
    refine fun key hkey => .after fun optional => .after fun isMethod => .ite ?_ ?_
    · extract_lets -underBinder checked
      have hchecked : ∀ u, Yields (checked u) Node.Apt := by
        refine fun _ => .check₂ fun _ => ?_
        exact .ite (classConstructor_apt hg hkey) (method_apt hg hkey (parameters_apt hg))
      split
      · exact .after hchecked
      · exact hchecked ()
    · refine .after fun generatorNext => .after fun isAccessor => .after fun _ => ?_
      refine .ite (field_apt hg hkey) (.after fun _ => .ite (asyncMethod_apt hg) ?_)
      exact .ite (accessor_apt hg) .unexpected
  split
  · refine .after fun _ => .ite (.give (hrest _ ?_)) ((memberKey_apt hg).bind hrest)
    exact Node.apt_leaf rfl rfl
  · exact (memberKey_apt hg).bind hrest

theorem plainMember_apt (hg : g.Apt) {head : MemberHead} : Yields (plainMember g head) Node.Apt := by
  refine .after fun head => .after fun _ => .ite ?_ (.after fun _ => .ite ?_ (.after fun typed => ?_))
  · -- a block of the class itself is read all the same after a fault of its words is told
    extract_lets -underBinder checked
    have hchecked : ∀ u, Yields (checked u) Node.Apt := fun _ => .check₂ fun _ => staticBlock_apt hg
    split
    · exact .after hchecked
    · exact hchecked ()
  · extract_lets -underBinder checked
    have hchecked : ∀ u, Yields (checked u) Node.Apt := by
      intro u
      unfold checked
      split
      · exact .after fun _ => .after fun _ => staticBlock_apt hg
      · exact .after fun _ => staticBlock_apt hg
    split
    · exact .after hchecked
    · exact hchecked ()
  · extract_lets -underBinder rest
    have hrest : ∀ u, Yields (rest u) Node.Apt := by
      refine fun _ => .after fun _ => .ite ?_ (keyedMember_apt hg)
      refine (memberKey_apt hg).bind fun key hkey => .check₂ fun _ => .check₂ fun _ => ?_
      exact method_apt hg hkey (parameters_apt hg)
    exact .ite (.tried (indexSignature?_apt hg) (fun _ => .pure) (hrest ())) (hrest ())

theorem wordMember?_apt (hg : g.Apt) {head : MemberHead} {w : String} {span : Span} {byLine : Bool} :
    Yields (wordMember? g head w span byLine) Node.MaybeApt := by
  have hkey : Node.Apt (.mk span (.ident w false)) := Node.apt_leaf rfl rfl
  refine .after fun _ => .ite (.after fun head => ?_) (.after fun _ => .ite (.after fun head => ?_) ?_)
  · exact (method_apt hg hkey (parameters_apt hg)).thenSome
  · exact (field_apt hg hkey).thenSome
  · exact .pure Node.maybeApt_none

/-- **A member of a class.** -/
theorem classMember_apt (hg : g.Apt) : Yields (classMember g) Node.Apt := by
  unfold classMember
  refine .after fun start => .after fun typed => ?_
  refine .eitherWay fun first => .after fun _ => .after fun access => ?_
  refine .eitherWay fun second => .after fun _ => ?_
  extract_lets -underBinder span head declareSpan rest
  -- each word may be the key of the member; otherwise the next one is looked at
  have hrest : ∀ u, Yields (rest u) Node.Apt := by
    refine fun _ => .after fun staticStart => .after fun isStatic => .after fun last => ?_
    extract_lets -underBinder staticSpan rest
    have hrest : ∀ u, Yields (rest u) Node.Apt := by
      refine fun _ => .after fun lexeme => .eitherWay fun isAccessor => ?_
      exact .ite (.tried (wordMember?_apt hg) (fun _ => .pure) (plainMember_apt hg)) (plainMember_apt hg)
    clear_value rest
    exact .ite (.tried (wordMember?_apt hg) (fun _ => .pure) (hrest ())) (hrest ())
  clear_value declareSpan rest
  split
  · exact .tried (wordMember?_apt hg) (fun _ => .pure) (hrest ())
  · exact hrest ()

theorem classMembers_apt (hg : g.Apt) : Yields (classMembers g) Node.AllApt := by
  refine .loop (Node.AllApt ·.1) Node.allApt_nil ?_
  rintro ⟨out, constructed⟩ hout
  refine .after fun _ => .ite (.pure hout) (.after fun _ => .ite (.after fun _ => .after fun _ => ?_) ?_)
  · exact .pure (hout.append_singleton (Node.apt_leaf rfl rfl))
  · refine (Yields.within (classMember_apt hg)).bind fun member hmember => ?_
    have hmore : Node.AllApt (out ++ [member]) := hout.append_singleton hmember
    split
    · exact .after fun _ => .ite (.check fun _ => .pure hmore) (.pure hmore)
    · exact .pure hmore

theorem superclass_apt (hg : g.Apt) :
    Yields (superclass g) fun x => x.1.Apt ∧ Node.MaybeApt x.2 := by
  refine hg.leftHand.bind fun expr hexpr => ?_
  split
  · next inner args hform =>
    have hparts : Node.AllApt [inner, args] := hexpr.tidy.parts hform rfl
    exact .pure (by simpa using hparts)
  · refine .after fun _ => .ite ?_ (.pure ⟨hexpr, Node.maybeApt_none⟩)
    exact (typeArgs_apt hg).bind fun args hargs => .pure ⟨hexpr, Node.maybeApt_some.2 hargs⟩

theorem heritage_apt (hg : g.Apt) : Yields (heritage g) Node.Apt := by
  refine .after fun start => name_apt.bind fun id hid => ?_
  refine (hg.subscripts _ _ _ hid).bind fun expr hexpr => ?_
  extract_lets -underBinder rest
  have hrest : ∀ u, Yields (rest u) Node.Apt := by
    intro u
    unfold rest
    split
    · next inner args hform =>
      have hparts : Node.AllApt [inner, args] := hexpr.tidy.parts hform rfl
      exact .pure (Node.apt_of_parts rfl (by simpa using hparts))
    · refine .after fun _ => (Yields.when? (typeArgs_apt hg)).bind ?_
      intro args (hargs : Node.MaybeApt args)
      exact node_apt rfl (by simp [hexpr, hargs])
  split
  iterate 3 exact hrest ()
  exact .after fun _ => .after hrest

theorem heritages_apt (hg : g.Apt) : Yields (heritages g) Node.AllApt := .commaList (heritage_apt hg)

/-- **A class from its keyword on.** -/
theorem classRest_apt (hg : g.Apt) {needsName isAbstract : Bool} :
    Yields (classRest g start needsName isAbstract) NamedApt := by
  refine .within (.after fun _ => ?_)
  refine .either Node.MaybeApt bindingIdent_apt.some_ bindingIdent?_apt fun named hnamed => ?_
  refine .after fun typed => ?_
  extract_lets -underBinder rest
  have hrest : ∀ u, Yields (rest u) NamedApt := by
    refine fun _ => .either Node.MaybeApt (typeParams?_apt hg) (.pure Node.maybeApt_none) ?_
    refine fun tps htps => .after fun _ => ?_
    extract_lets -underBinder parented
    -- a class may be given its parent in either of two places; what follows is the same
    have hparented : ∀ x, Node.MaybeApt x.1 ∧ Node.MaybeApt x.2 → Yields (parented x) NamedApt := by
      rintro ⟨parent, parentArgs⟩ ⟨hparent, hparentArgs⟩
      refine .after fun _ => .skip fun _ => .after fun _ => ?_
      refine .either Node.AllApt (heritages_apt hg) (.pure Node.allApt_nil) fun implemented himpl => ?_
      refine .after fun _ => .skip fun _ => .after fun _ => ?_
      extract_lets -underBinder body
      have hbody : ∀ x, Node.MaybeApt x.1 ∧ Node.MaybeApt x.2 → Yields (body x) NamedApt := by
        rintro ⟨parent, parentArgs⟩ ⟨hparent, hparentArgs⟩
        refine .after fun _ => (Yields.within (classMembers_apt hg)).bind fun members hmembers => ?_
        refine .after fun _ => .eitherWay fun _ => .check fun _ => ?_
        refine (node_apt rfl ?_).bind fun n hn => .pure ⟨hnamed, hn⟩
        simp_all
      clear_value body
      refine .ite (.after fun _ => .after fun _ => (superclass_apt hg).bind ?_)
        (.give (hbody _ ⟨hparent, hparentArgs⟩))
      rintro ⟨p, args⟩ ⟨hp, hargs⟩
      refine .give (hbody _ ?_)
      split
      · exact ⟨hparent, hparentArgs⟩
      · exact ⟨Node.maybeApt_some.2 hp, hargs⟩
    clear_value parented
    refine .ite ((superclass_apt hg).bind ?_)
      (.give (hparented _ ⟨Node.maybeApt_none, Node.maybeApt_none⟩))
    rintro ⟨p, args⟩ ⟨hp, hargs⟩
    exact .after fun _ => .check₂ fun _ => .give (hparented _ ⟨Node.maybeApt_some.2 hp, hargs⟩)
  split
  · exact .ite (.after hrest) (hrest ())
  · exact hrest ()

theorem classExpr_apt (hg : g.Apt) : Yields (classExpr g) Node.Apt := by
  refine .after fun start => (classRest_apt hg).bind ?_
  rintro ⟨named, body⟩ ⟨hnamed, hbody⟩
  exact node_apt rfl (by simp_all)

theorem classDecl_apt (hg : g.Apt) {isAbstract : Bool} :
    Yields (classDecl g start isAbstract) Node.Apt := by
  refine (classRest_apt hg).bind ?_
  rintro ⟨named, body⟩ ⟨hnamed, hbody⟩
  exact node_apt rfl (by simp_all)

/-! ### Objects -/

theorem asMethod_yields (h : Yields step p) : Yields (asMethod step) p := .within h

/-- A property that is built from phrases that are none. -/
theorem node_tidy {f : Form Node} (h : Node.AllApt f.parts) : Yields (nodeFrom start f) Node.Tidy :=
  .after fun _ => .pure (Node.tidy_of_parts h)

theorem accessorProperty_tidy (hg : g.Apt) {word : String} {stray : Option Span} :
    Yields (accessorProperty g start word stray) Node.Tidy := by
  unfold accessorProperty
  extract_lets -underBinder rest
  have hrest : ∀ u, Yields (rest u) Node.Tidy := by
    refine fun _ => .eitherWay fun isGenerator => ?_
    refine (propertyKey_apt hg).bind fun key hkey => asMethod_yields ?_
    split
    · refine (functionRest_apt hg (getterParameters_apt hg)).bind fun f hf => ?_
      split
      · next params body tps type hform =>
        have hparts := hf.tidy.parts hform rfl
        simp only [Form.parts, Node.allApt_append, Node.allApt_toList] at hparts
        exact node_tidy (by simp [hkey, hparts])
      · exact .pure hf.tidy
    · refine (functionRest_apt hg (setterParameters_apt hg)).bind fun f hf => ?_
      split
      · next params body tps type hform =>
        have hparts := hf.tidy.parts hform rfl
        simp only [Form.parts, Node.allApt_append, Node.allApt_toList] at hparts
        -- a setter keeps the patterns of the parameters that its function has been read with
        extract_lets -underBinder patterns done
        have hpatterns : Node.AllApt patterns := by
          intro n hn
          obtain ⟨p, hp, rfl⟩ := List.mem_map.1 hn
          have hparam := hparts.1.1.1 p hp
          split
          · next pattern hform =>
            exact hparam.tidy.onlyPart hform rfl rfl
          · exact hparam
        have hdone : ∀ x, NamedApt x → Yields (done x) Node.Tidy := by
          rintro ⟨this, param⟩ ⟨hthis, hparam⟩
          exact node_tidy (by simp_all)
        clear_value patterns done
        split
        · simp only [Node.allApt_cons] at hpatterns
          exact .give (hdone _ ⟨Node.maybeApt_some.2 hpatterns.1, hpatterns.2.1⟩)
        · simp only [Node.allApt_cons] at hpatterns
          exact .give (hdone _ ⟨Node.maybeApt_none, hpatterns.1⟩)
        · exact .after fun _ => .give (hdone _ ⟨Node.maybeApt_none, Node.apt_leaf rfl rfl⟩)
      · exact .pure hf.tidy
    · refine (functionRest_apt hg (parameters_apt hg)).bind fun f hf => .pure ?_
      exact Node.tidy_of_parts (by simp [hkey, hf])
  split
  · exact .after hrest
  · exact hrest ()

/-- **A property of an object** holds no properties but those of other objects. -/
theorem objectProperty_tidy (hg : g.Apt) : Yields (objectProperty g) Node.Tidy := by
  -- a method stands in an object as a property, whose parts are its key and its function
  have hmethod {key f : Node} (hkey : key.Apt) (hf : f.Apt) :
      Node.Tidy (.mk (.cover key.span f.span) (.methodProperty key f)) :=
    Node.tidy_of_parts (by simp [hkey, hf])
  refine .after fun start => .after fun _ => .ite (hg.assignIn.bind fun arg harg => ?_) ?_
  · exact node_tidy (by simp [harg])
  refine .after fun _ => .ite ((propertyKey_apt hg).bind fun key hkey => ?_) ?_
  · refine (asMethod_yields (functionRest_apt hg (parameters_apt hg))).bind fun f hf => ?_
    exact .pure (hmethod hkey hf)
  refine .after fun stray => .after fun _ => (propertyKey_apt hg).bind fun key hkey => .after fun _ => ?_
  refine .ite (.after fun _ => .after fun _ => .after fun _ => ?_) (.after fun _ => .ite ?_ ?_)
  · refine (leaf_apt rfl rfl).bind fun value hvalue => .pure ?_
    exact Node.tidy_of_parts (by simp [hkey, hvalue])
  · refine hg.assignIn.bind fun value hvalue => .pure ?_
    exact Node.tidy_of_parts (by simp [hkey, hvalue])
  refine .after fun _ => .ite ?_ ?_
  · refine (asMethod_yields (functionRest_apt hg (parameters_apt hg))).bind fun f hf => ?_
    exact .pure (hmethod hkey hf)
  split
  · exact .unexpected
  · refine .after fun _ => .check₂ fun _ => .after fun _ => .ite (.after fun _ => .ite ?_ ?_) ?_
    · refine hg.assignIn.bind fun value hvalue => ?_
      exact node_tidy (by simp [hkey, hvalue])
    · exact .pure (Node.tidy_of_parts (by simp [hkey]))
    · exact .ite (accessorProperty_tidy hg) (.after fun _ => .ite .unexpected .unexpected)

/-- **An object between its braces.** -/
theorem object_apt (hg : g.Apt) : Yields (object g) Node.Apt := by
  refine .within (.after fun start => (bracedItems_yields (objectProperty_tidy hg)).bind ?_)
  rintro ⟨props, comma⟩ hprops
  refine .bind (p := Node.Apt) (.after fun _ => .pure (Node.apt_object hprops)) fun node hnode => ?_
  extract_lets -underBinder done
  have hdone : ∀ u, Yields (done u) Node.Apt := fun _ => .pure hnode
  split
  · exact .after hdone
  · exact hdone ()

end EnvSchema.Script.Read
