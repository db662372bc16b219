import EnvSchema.Proofs.Script.Apt.Arrows
import EnvSchema.Script.Reader.TypeDeclarations

/-!
# Declarations are no properties

* `Read.varDeclaration_apt`, `Read.usingDeclaration?_apt` — declarations of variables;
* `Read.interface_apt`, `Read.enum_apt`, `Read.namespaceRest_apt` — declarations of types;
* `Read.declared?_apt`, `Read.wordDeclaration?_apt` — declarations that start with a word which is no
  keyword.
-/

namespace EnvSchema.Script

-- phrases are built from parts that are known one by one
attribute [local simp] Form.parts

/-- A declaration of something that is defined elsewhere stands where it may stand otherwise. -/
theorem Node.Apt.asDeclared {n : Node} (h : n.Apt) : n.asDeclared.Apt := by
  unfold Node.asDeclared
  split
  iterate 7
    · next hform =>
      have hparts := h.tidy.parts hform rfl
      exact Node.apt_of_parts rfl hparts
  · cases n with
    | mk => exact h

namespace Read

variable {g : Grammar} {start : Nat}

/-! ### Variables -/

theorem initializer?_apt (hg : g.Apt) {pattern : Node} {kind : VarKind} {inFor : Bool} :
    Yields (initializer? g start pattern kind inFor) Node.MaybeApt := by
  refine .after fun _ => .ite (.pure Node.maybeApt_none) (.after fun _ => .ite ?_ (.after fun c => ?_))
  · exact hg.assign.bind fun value hvalue => .after fun _ => .pure (Node.maybeApt_some.2 hvalue)
  refine .ite (.pure Node.maybeApt_none) ?_
  split
  · exact .check₂ fun _ => .pure Node.maybeApt_none
  · refine .ite (.after fun span => .after fun _ => .pure Node.maybeApt_none) ?_
    exact .after fun span => .stop

/-- **One variable or pattern with its value.** -/
theorem declarator_apt (hg : g.Apt) {inFor : Bool} {kind : VarKind} :
    Yields (declarator g inFor kind) Node.Apt := by
  refine .after fun start => (hg.pattern _).bind fun pattern hpattern => .after fun typed => ?_
  extract_lets -underBinder isName rest
  have hrest : ∀ b, Yields (rest b) Node.Apt := by
    refine fun definite => .after fun _ => ?_
    extract_lets -underBinder done
    have hdone : ∀ n : Node, n.Apt → Yields (done n) Node.Apt := by
      refine fun n hn => (initializer?_apt hg).bind fun value hvalue => ?_
      exact node_apt rfl (by simp [hn, hvalue])
    clear_value done
    refine .ite ((colonType_apt hg).bind fun type htype => ?_) (.give (hdone _ hpattern))
    exact .give (hdone _ (hpattern.withType (Node.maybeApt_some.2 htype)))
  clear_value rest
  exact .ite (.after hrest) (.give (hrest _))

/-- **A declaration of variables.** -/
theorem varDeclaration_apt (hg : g.Apt) {inFor : Bool} : Yields (varDeclaration g inFor) Node.Apt := by
  refine .after fun start => .after fun word => ?_
  extract_lets -underBinder kind
  refine .after fun span => .after fun _ => .ite ?_ ?_
  · exact .after fun _ => leaf_apt rfl rfl
  extract_lets -underBinder one
  have hone : Yields one Node.Apt := .ite (.within (declarator_apt hg)) (declarator_apt hg)
  clear_value one
  refine .bind (p := Node.AllApt) ?_ fun decls hdecls => .after fun _ => .check fun _ => ?_
  · refine .loop Node.AllApt Node.allApt_nil fun out hout => .after fun _ => .ite ?_ ?_
    · exact .after fun _ => .after fun _ => .pure hout
    · refine hone.bind fun n hn => .after fun _ => ?_
      have hmore : Node.AllApt (out ++ [n]) := hout.append_singleton hn
      exact .ite (.pure hmore) (.pure hmore)
  · exact node_apt rfl hdecls

theorem usingDeclaration?_apt (hg : g.Apt) {isAwait : Bool} :
    Yields (usingDeclaration? g start isAwait) Node.MaybeApt := by
  refine .after fun _ => .ite (.pure Node.maybeApt_none) (.after fun _ => ?_)
  refine .bind (p := Node.AllApt) ?_ fun decls hdecls => .after fun _ => .after fun _ => ?_
  · refine .loop Node.AllApt Node.allApt_nil fun out hout => .after fun _ => .ite ?_ ?_
    · exact .after fun _ => .after fun _ => .pure hout
    · refine (declarator_apt hg).bind fun n hn => .after fun _ => ?_
      have hmore : Node.AllApt (out ++ [n]) := hout.append_singleton hn
      exact .ite (.pure hmore) (.pure hmore)
  · exact Yields.thenSome (node_apt rfl hdecls)

/-! ### Types -/

theorem interface_apt (hg : g.Apt) : Yields (interface g start) Node.Apt := by
  refine name_apt.bind fun id hid => .check fun _ => (typeParams?_apt hg).bind fun tps htps => ?_
  refine .after fun _ => .either Node.AllApt (heritages_apt hg) (.pure Node.allApt_nil) ?_
  refine fun parents hparents => .after fun _ => ?_
  extract_lets -underBinder rest
  have hrest : ∀ u, Yields (rest u) Node.Apt := by
    refine fun _ => .after fun bodyStart => (Yields.inType (objectMembers_apt hg)).bind ?_
    refine fun members hmembers => ?_
    refine (node_apt (f := .interfaceBody members) rfl hmembers).bind fun body hbody => ?_
    exact node_apt rfl (by simp [hid, htps, hparents, hbody])
  exact .ite (.after fun _ => .after fun _ => .after hrest) (hrest ())

theorem typeAlias_apt (hg : g.Apt) : Yields (typeAlias g start) Node.Apt := by
  refine name_apt.bind fun id hid => (typeParams?_apt hg).bind fun tps htps => ?_
  refine (typeAfter_apt hg).bind fun type htype => .after fun _ => ?_
  exact node_apt rfl (by simp [hid, htps, htype])

theorem enumKey_apt : Yields (enumKey g) Node.Apt := by
  refine .after fun start => .after fun t => ?_
  split
  · exact literal_apt
  · exact .after fun _ => .after fun span => .after fun _ => .pure (Node.apt_leaf rfl rfl)
  · exact .after fun _ => .after fun _ => .after fun _ => .after fun _ => .after fun _ => leaf_apt rfl rfl
  · exact name_apt

theorem enumMember_apt (hg : g.Apt) : Yields (enumMember g) Node.Apt := by
  refine .after fun start => enumKey_apt.bind fun key hkey => .after fun _ => .after fun _ => ?_
  extract_lets -underBinder done
  have hdone : ∀ o, Node.MaybeApt o → Yields (done o) Node.Apt := fun o ho =>
    node_apt rfl (by simp [hkey, ho])
  clear_value done
  refine .ite (hg.assign.bind fun value hvalue => .give (hdone _ (Node.maybeApt_some.2 hvalue))) ?_
  refine .ite (.give (hdone _ Node.maybeApt_none)) (.after fun _ => .after fun _ => .after fun _ => ?_)
  exact .after fun _ => .give (hdone _ Node.maybeApt_none)

theorem enum_apt (hg : g.Apt) {isConst : Bool} : Yields (enum g start isConst) Node.Apt := by
  refine name_apt.bind fun id hid => .after fun _ => .bind (p := Node.AllApt) ?_ fun members hmembers => ?_
  · refine .loop Node.AllApt Node.allApt_nil fun out hout => .after fun _ => .ite (.pure hout) ?_
    refine (enumMember_apt hg).bind fun n hn => .after fun _ => ?_
    have hmore : Node.AllApt (out ++ [n]) := hout.append_singleton hn
    refine .ite (.pure hmore) (.after fun _ => .ite (.pure hmore) (.after fun _ => .after fun _ => ?_))
    exact .after fun _ => .pure hmore
  · exact .after fun _ => node_apt rfl (by simp [hid, hmembers])

theorem namespaceBlock_apt (hg : g.Apt) : Yields (namespaceBlock g) Node.Apt := by
  refine .after fun start => .after fun _ => .bind (p := Node.AllApt) ?_ fun body hbody => ?_
  · refine .loop Node.AllApt Node.allApt_nil fun out hout => .after fun _ => .ite ?_ ?_
    · exact .after fun _ => .after fun _ => .pure hout
    · refine .after fun _ => .ite (.pure hout) (hg.moduleItem.bind fun n hn => .pure ?_)
      exact hout.append_singleton hn
  · exact node_apt rfl hbody

theorem namespaceRest_apt (hg : g.Apt) : Yields (namespaceRest g start) Node.Apt := by
  refine name_apt.bind fun id hid => .after fun _ => ?_
  refine .either Node.Apt hg.innerNamespace (namespaceBlock_apt hg) fun body hbody => ?_
  exact node_apt rfl (by simp [hid, hbody])

theorem innerNamespace_apt (hg : g.Apt) : Yields (innerNamespace g) Node.Apt := by
  refine .after fun start => (namespaceRest_apt hg).bind fun rest hrest => ?_
  split
  · next id body hform =>
    have hparts := hrest.tidy.parts hform rfl
    exact .pure (Node.apt_of_parts rfl (by simp_all))
  · exact .pure hrest

theorem externalModule_apt (hg : g.Apt) : Yields (externalModule g start) Node.Apt := by
  refine .after fun isGlobal => ?_
  extract_lets -underBinder rest
  have hrest : ∀ n : Node, n.Apt → Yields (rest n) Node.Apt := by
    refine fun id hid => .after fun _ => ?_
    extract_lets -underBinder done
    have hdone : ∀ o, Node.MaybeApt o → Yields (done o) Node.Apt := fun o ho =>
      node_apt rfl (by simp [hid, ho])
    clear_value done
    refine .ite ((namespaceBlock_apt hg).bind fun body hbody => ?_) (.after fun _ => ?_)
    · exact .give (hdone _ (Node.maybeApt_some.2 hbody))
    · exact .give (hdone _ Node.maybeApt_none)
  clear_value rest
  refine .ite (name_apt.bind hrest) (.after fun t => ?_)
  split
  · exact literal_apt.bind hrest
  · exact .bind .unexpected hrest

/-- **A declaration that starts with a given word.** -/
theorem wordDeclaration?_apt (hg : g.Apt) {word : String} {ahead : Bool} :
    Yields (wordDeclaration? g start word ahead) Node.MaybeApt := by
  unfold wordDeclaration?
  extract_lets -underBinder take
  split
  · exact .after fun _ => .ite (.after fun _ => (classDecl_apt hg).thenSome) (.pure Node.maybeApt_none)
  · exact .after fun _ => .ite (.after fun _ => (enum_apt hg).thenSome) (.pure Node.maybeApt_none)
  · exact .after fun _ => .ite (.after fun _ => (interface_apt hg).thenSome) (.pure Node.maybeApt_none)
  · refine .after fun _ => .ite (.pure Node.maybeApt_none) (.after fun _ => .after fun t => ?_)
    split
    · exact (externalModule_apt hg).thenSome
    · exact .after fun _ => .ite (namespaceRest_apt hg).thenSome (.pure Node.maybeApt_none)
  · exact .after fun _ => .ite (.after fun _ => (namespaceRest_apt hg).thenSome) (.pure Node.maybeApt_none)
  · exact .after fun _ => .ite (.after fun _ => (typeAlias_apt hg).thenSome) (.pure Node.maybeApt_none)
  · exact .pure Node.maybeApt_none

/-- **What stands behind the word `declare`.** -/
theorem declared?_apt (hg : g.Apt) : Yields (declared? g start) Node.MaybeApt := by
  refine .after fun _ => .ite (.pure Node.maybeApt_none) (.after fun c => .check₂ fun _ => ?_)
  refine .bind (p := Node.MaybeApt) (.within (.after fun _ => .ite ?_ ?_)) fun decl hdecl => ?_
  · exact (functionDecl_apt hg).thenSome
  · refine .after fun _ => .ite (classDecl_apt hg).thenSome (.after fun _ => .ite ?_ ?_)
    · exact .after fun _ => .after fun _ => (enum_apt hg).thenSome
    · refine .after fun _ => .ite (varDeclaration_apt hg).thenSome (.after fun _ => .ite ?_ ?_)
      · exact (externalModule_apt hg).thenSome
      · refine .after fun t => ?_
        split
        · exact wordDeclaration?_apt hg
        · exact .pure Node.maybeApt_none
  · refine .pure fun n hn => ?_
    obtain ⟨d, hd, rfl⟩ := Option.map_eq_some_iff.1 hn
    exact (hdecl d hd).withSpan.asDeclared

theorem declarationAfter?_apt (hg : g.Apt) {id : Node} (h : id.Apt) :
    Yields (declarationAfter? g id) Node.MaybeApt := by
  unfold declarationAfter?
  extract_lets -underBinder start
  split
  · exact declared?_apt hg
  · refine .after fun _ => .ite ((namespaceBlock_apt hg).bind fun body hbody => ?_)
      (.pure Node.maybeApt_none)
    exact Yields.thenSome (node_apt rfl (by simp [h, hbody]))
  · exact wordDeclaration?_apt hg

end Read

end EnvSchema.Script
