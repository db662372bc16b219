import EnvSchema.Proofs.Script.Apt.Names

/-!
# Patterns are no properties

* `Read.bindingPattern_apt`, `Read.parameters_apt`, `Read.constructorParameters_apt` — patterns that bind
  names, and parameters;
* `Read.patternOf_apt` — an expression that turns out to be a pattern. The parts of an object become
  those of a pattern, which are no properties any more.
-/

namespace EnvSchema.Script

-- phrases are built from parts that are known one by one
attribute [local simp] Form.parts

namespace Node

variable {n : Node}

/-- A pattern that may be left out stands where it may stand otherwise. -/
theorem Apt.asOptional (h : n.Apt) : n.asOptional.Apt := by
  unfold Node.asOptional
  split
  iterate 3
    · next hn =>
      have hparts := h.tidy.parts hn rfl
      exact apt_of_parts rfl hparts
  · exact h

/-- So does a pattern with another type. -/
theorem Apt.withType (h : n.Apt) {type : Option Node} (htype : MaybeApt type) :
    (n.withType type).Apt := by
  unfold Node.withType
  split
  · exact apt_of_parts rfl (by simp [htype])
  iterate 3
    · next hn =>
      have hparts := h.tidy.parts hn rfl
      refine apt_of_parts rfl ?_
      simp only [Form.parts, allApt_append, allApt_cons, allApt_toList] at hparts ⊢
      exact ⟨hparts.1, htype⟩
  · exact h

/-- And so does one at another place. -/
theorem Apt.withSpan (h : n.Apt) {s : Span} : (n.withSpan s).Apt := by
  cases h.tidy with
  | intro parts places => exact ⟨.intro parts places, h.isProperty⟩

end Node

namespace Read

variable {g : Grammar} {start : Nat}

/-! ### Patterns that bind names -/

theorem bindingElement_apt (hg : g.Apt) : Yields (bindingElement g) Node.Apt := by
  refine .after fun start => (hg.pattern _).bind fun left hleft => .after fun b => .ite ?_ (.pure hleft)
  refine hg.assignIn.bind fun right hright => .after fun c => .check₂ fun _ => ?_
  exact node_apt rfl (by simp [hleft, hright])

theorem arrayPattern_apt (hg : g.Apt) : Yields (arrayPattern g) Node.Apt := by
  refine .after fun start => .after fun _ => ?_
  refine .bind (p := Node.ElemsApt) ?_ fun elems helems => ?_
  · -- the loop keeps the elements that have been read apt, each of them or an empty place
    refine .loop (Node.ElemsApt ·.1) Node.elemsApt_nil ?_
    rintro ⟨out, rest⟩ hout
    refine .after fun _ => .ite (.pure hout) (.after fun _ => .ite (.pure (by simpa using hout)) ?_)
    extract_lets -underBinder next
    have hnext : ∀ u, Yields (next u) (Sum.elim (Node.ElemsApt ·.1) Node.ElemsApt) := by
      refine fun _ => .after fun start => .after fun isRest => ?_
      extract_lets -underBinder more
      have hmore : ∀ x, x.1.Apt → Yields (more x) (Sum.elim (Node.ElemsApt ·.1) Node.ElemsApt) := by
        rintro ⟨elem, rest⟩ helem
        have hout : Node.ElemsApt (out ++ [some elem]) := hout.append_singleton helem
        refine .after fun _ => .ite ?_ (.pure hout)
        exact .after fun _ => .after fun _ =>
          .ite (.after fun _ => .after fun _ => .pure hout) (.pure hout)
      clear_value more
      refine .ite ?_ ((bindingElement_apt hg).bind fun elem helem => .give (hmore _ helem))
      refine (hg.pattern _).bind fun arg harg => .after fun _ => .give (hmore _ ?_)
      exact Node.apt_of_parts rfl (by simp [harg])
    split
    · exact .after hnext
    · exact hnext ()
  · exact .after fun _ => .after fun _ => node_apt rfl (by simp [helems])

theorem objectPatternProp_apt (hg : g.Apt) : Yields (objectPatternProp g) Node.Apt := by
  refine .after fun start => .after fun _ => .ite ?_ ?_
  · refine (hg.pattern _).bind fun arg harg => ?_
    exact node_apt rfl (by simp [harg])
  · refine (propertyKey_apt hg).bind fun key hkey => .after fun _ => .ite ?_ (.check fun _ => ?_)
    · refine (bindingElement_apt hg).bind fun value hvalue => ?_
      exact node_apt rfl (by simp [hkey, hvalue])
    · refine .after fun _ => (Yields.when? hg.assignIn).bind fun value hvalue => ?_
      exact node_apt rfl (by simpa using ⟨hkey, hvalue⟩)

/-- The items between braces are as their reader answers them. -/
theorem bracedItems_yields {item : Read Node} {p : Node → Prop} (h : Yields item p) :
    Yields (bracedItems item) fun x => ∀ n ∈ x.1, p n := by
  refine .after fun _ => .loop (fun x => ∀ n ∈ x.1, p n) (fun _ h => absurd h List.not_mem_nil) ?_
  rintro ⟨out, comma⟩ hout
  refine .after fun _ => .ite (.pure hout) (h.bind fun n hn => .after fun _ => ?_)
  have hmore : ∀ m ∈ out ++ [n], p m :=
    List.forall_mem_append.2 ⟨hout, List.forall_mem_singleton.2 hn⟩
  refine .ite (.pure hmore) (.after fun _ => .after fun _ => .ite (.after fun _ => .pure hmore) ?_)
  exact .pure hmore

theorem objectPattern_apt (hg : g.Apt) : Yields (objectPattern g) Node.Apt := by
  refine .within (.after fun start => (bracedItems_yields (objectPatternProp_apt hg)).bind ?_)
  rintro ⟨props, comma⟩ hprops
  refine .after fun span => .after fun _ => .after fun _ => .pure (Node.apt_of_parts rfl ?_)
  simp only [Form.parts, Node.allApt_append, Node.allApt_toList, Node.maybeApt_none, and_true]
  exact hprops

theorem bindingPattern_apt (hg : g.Apt) {noLet : Bool} : Yields (bindingPattern g noLet) Node.Apt := by
  refine .after fun t => ?_
  split
  · exact bindingIdent_apt
  · exact arrayPattern_apt hg
  · exact objectPattern_apt hg
  · exact .unexpected

/-! ### Parameters -/

theorem parameterType_apt (hg : g.Apt) {pattern : Node} (h : pattern.Apt) :
    Yields (parameterType g start pattern) (·.1.Apt) := by
  refine .after fun _ => ?_
  extract_lets -underBinder rest
  have hrest : ∀ x, x.1.Apt → Yields (rest x) (·.1.Apt) := by
    rintro ⟨pattern, optional⟩ h
    refine (colonType?_apt hg).bind fun type htype => ?_
    split
    · exact .pure (h.withType htype)
    · exact .ite (.after fun _ => .after fun _ => .pure h.withSpan) (.pure h)
    · exact .eitherWay fun _ => .pure (h.withSpan.withType htype)
  clear_value rest
  refine .ite ?_ (.give (hrest _ h))
  split
  iterate 3 exact .give (hrest _ h.asOptional)
  exact .after fun _ => .ite (.give (hrest _ h)) (.after fun _ => .bind .stop hrest)

theorem parameterPattern_apt (hg : g.Apt) : Yields (parameterPattern g) Node.Apt := by
  refine .after fun start => .after fun stray => .after fun patStart => ?_
  refine (bindingElement_apt hg).bind fun pattern hpattern => .after fun typed => ?_
  refine .either (·.1.Apt) (parameterType_apt hg hpattern) (.pure hpattern) ?_
  rintro ⟨pattern, optional⟩ hpattern
  refine .after fun _ => ?_
  extract_lets -underBinder done
  have hdone : ∀ n : Node, n.Apt → Yields (done n) Node.Apt := fun n hn => .check₂ fun _ => .pure hn
  refine .ite (.check fun _ => ?_) (.give (hdone _ hpattern))
  refine hg.assign.bind fun right hright => .after fun _ => .check₂ fun _ => ?_
  exact (node_apt rfl (by simp [hpattern, hright])).bind hdone

theorem restParameter_apt (hg : g.Apt) {mayHaveInit : Bool} :
    Yields (restParameter g start mayHaveInit) Node.Apt := by
  refine (hg.pattern _).bind fun arg harg => .after fun _ => ?_
  extract_lets -underBinder rest
  have hrest : ∀ n : Node, n.Apt → Yields (rest n) Node.Apt := by
    refine fun n hn => .after fun _ => ?_
    refine .either Node.MaybeApt (colonType?_apt hg) (.pure Node.maybeApt_none) fun type htype => ?_
    refine (node_apt rfl (by simp [hn, htype])).bind fun node hnode => .after fun _ => ?_
    exact .check₂ fun _ => .pure hnode
  refine .ite (hg.assign.bind fun right hright => .after fun _ => ?_) (.give (hrest _ harg))
  exact (node_apt rfl (by simp [harg, hright])).bind hrest

theorem parameterList_apt {item : Nat → Read Node} (h : ∀ start, Yields (item start) Node.Apt) :
    Yields (parameterList item) Node.AllApt := by
  refine .loop (Node.AllApt ·.1) Node.allApt_nil ?_
  rintro ⟨out, rest⟩ hout
  refine .after fun _ => .ite (.pure hout) ?_
  extract_lets -underBinder next
  have hnext : ∀ u, Yields (next u) (Sum.elim (Node.AllApt ·.1) Node.AllApt) := by
    refine fun _ => .after fun start => .after fun isRest => .after fun _ => ?_
    refine (h start).bind fun param hparam => .after fun _ => ?_
    have hmore : Node.AllApt (out ++ [param]) := by simp [hout, hparam]
    refine .ite (.after fun _ => .after fun _ => .ite ?_ (.pure hmore)) (.pure hmore)
    exact .after fun _ => .after fun _ => .pure hmore
  split
  · exact .after hnext
  · exact hnext ()

theorem parameters_apt (hg : g.Apt) : Yields (parameters g) Node.AllApt := by
  refine parameterList_apt fun start => .after fun _ => ?_
  refine .either Node.Apt (restParameter_apt hg) (parameterPattern_apt hg) fun pattern hpattern => ?_
  exact node_apt rfl (by simp [hpattern])

theorem constructorParameter_apt (hg : g.Apt) : Yields (constructorParameter g start) Node.Apt := by
  refine .after fun _ => .after fun _ => .after fun _ => ?_
  refine (parameterPattern_apt hg).bind fun pattern hpattern => .ite ?_ ?_
  · exact node_apt rfl (by simp [hpattern])
  · extract_lets -underBinder done
    have hdone : ∀ u, Yields (done u) Node.Apt := fun _ =>
      node_apt rfl (by simp [hpattern])
    split
    iterate 2 exact hdone ()
    exact .after hdone

theorem constructorParameters_apt (hg : g.Apt) : Yields (constructorParameters g) Node.AllApt := by
  refine parameterList_apt fun start => .after fun _ => .ite ?_ (constructorParameter_apt hg)
  refine (restParameter_apt hg).bind fun pattern hpattern => ?_
  exact node_apt rfl (by simp [hpattern])

/-! ### Expressions that turn out to be patterns -/

theorem bindingOf_apt {span : Span} {name : String} : (bindingOf span name).Apt := Node.apt_leaf rfl rfl

theorem noPattern_apt {span : Span} : Yields (noPattern span) Node.Apt :=
  .after fun _ => .pure (Node.apt_leaf rfl rfl)

theorem patternOfName_apt {use : PatternUse} {span : Span} {name : String} :
    Yields (patternOfName use span name) Node.Apt :=
  .after fun _ => .check fun _ => .pure bindingOf_apt

/-- **An expression whose parts turn out to be patterns**, whatever for. -/
def PartsAsPatterns (n : Node) : Prop :=
  ∀ p ∈ n.parts, p.Apt → ∀ use, Yields (patternOf use p) Node.Apt

/-- The parts of an object become those of a pattern. -/
theorem propsOf_apt {use : PatternUse} {object : Span} {props : List Node} (h : ∀ p ∈ props, p.Tidy)
    (hparts : ∀ p ∈ props, PartsAsPatterns p) : Yields (propsOf use object props) Node.AllApt := by
  induction props with
  | nil =>
    unfold propsOf
    exact .pure Node.allApt_nil
  | cons prop rest ih =>
    obtain ⟨hprop, h⟩ := List.forall_mem_cons.1 h
    obtain ⟨hpart, hparts⟩ := List.forall_mem_cons.1 hparts
    unfold propsOf
    extract_lets -underBinder more
    -- each property is made a part of the pattern, and those behind it are as well
    have hmore : ∀ n : Node, n.Apt → Yields (more n) Node.AllApt := fun n hn =>
      (ih h hparts).bind fun l hl => .pure (by simp [hn, hl])
    clear_value more
    split
    · next s name _ =>
      have hkey : Node.Apt (.mk s (.ident name false)) := Node.apt_leaf rfl rfl
      exact .give (hmore _ (Node.apt_of_parts rfl (by simp [hkey])))
    · next key value =>
      have hkey : Node.AllApt [key, value] := hprop.of_mk rfl
      rw [Node.allApt_cons, Node.allApt_cons] at hkey
      refine (hpart value (by simp [Node.parts, Node.form]) hkey.2.1 _).bind fun v hv => ?_
      exact .give (hmore _ (Node.apt_of_parts rfl (by simp [hkey, hv])))
    · next key value =>
      have hkey : Node.AllApt [key, value] := hprop.of_mk rfl
      exact .give (hmore _ (Node.apt_of_parts rfl (by simpa using hkey)))
    · next span arg =>
      have harg : arg.Apt := hprop.onlyPart rfl rfl rfl
      -- what is spread may be refused in such a place, and then something apt stands there instead
      have hpattern := hpart arg (by simp [Node.parts, Node.form]) harg use.part
      extract_lets -underBinder checked
      have hchecked : ∀ u, Yields (checked u) Node.AllApt := by
        intro u
        unfold checked
        extract_lets -underBinder done
        have hdone : ∀ n : Node, n.Apt → Yields (done n) Node.AllApt := by
          intro n hn
          have hrest : Node.Apt (.mk span (.restPattern n none)) :=
            Node.apt_of_parts rfl (by simp [hn])
          unfold done
          split
          · exact .after fun _ => .give (hmore _ hrest)
          · exact .give (hmore _ hrest)
        clear_value done
        refine .ite ?_ (hpattern.bind hdone)
        split
        · exact .give (hdone _ bindingOf_apt)
        · exact .after fun _ => .give (hdone _ (Node.apt_leaf rfl rfl))
      clear_value checked
      refine .ite (.after hchecked) (.after fun _ => ?_)
      split
      · exact .after hchecked
      · exact hchecked ()
    · exact .bind .stop hmore

/-- The elements of an array become those of a pattern. -/
theorem elemsOf_apt {use : PatternUse} {array : Span} {lastMayBeRest : Bool} {count : Nat}
    {elems : List (Option Node)} (h : Node.ElemsApt elems)
    (has : ∀ o ∈ elems, ∀ p ∈ o, ∀ use, Yields (patternOf use p) Node.Apt)
    (hparts : ∀ o ∈ elems, ∀ p ∈ o, PartsAsPatterns p) :
    Yields (elemsOf use array lastMayBeRest count elems) Node.ElemsApt := by
  -- by the elements, with the number of those that are still wanted
  induction elems generalizing count with
  | nil =>
    unfold elemsOf
    cases count <;> exact .pure Node.elemsApt_nil
  | cons o rest ih =>
    cases count with
    | zero =>
      unfold elemsOf
      exact .pure Node.elemsApt_nil
    | succ count =>
    obtain ⟨ho, h⟩ := List.forall_mem_cons.1 h
    obtain ⟨hasPattern, has⟩ := List.forall_mem_cons.1 has
    obtain ⟨hpart, hparts⟩ := List.forall_mem_cons.1 hparts
    have hrest := fun count => @ih count h has hparts
    cases o with
    | none =>
      unfold elemsOf
      exact (hrest _).bind fun l hl => .pure (by simp [hl])
    | some elem =>
      rw [Node.maybeApt_some] at ho
      have helem := hasPattern elem rfl
      unfold elemsOf
      split
      · exact .pure Node.elemsApt_nil
      · exact .pure Node.elemsApt_nil
      · next heq => exact nomatch heq
      · next span arg _ hcount heq =>
        cases hcount
        cases heq
        have harg : arg.Apt := ho.tidy.onlyPart rfl rfl rfl
        have hpattern := hpart _ rfl arg (by simp [Node.parts, Node.form]) harg use.part
        -- only the last element may be spread, and it becomes the rest of the pattern
        refine .ite ?_ (.after fun _ => hrest _)
        extract_lets -underBinder checked
        have hchecked : ∀ u, Yields (checked u) Node.ElemsApt := by
          refine fun u => .after fun s => ?_
          extract_lets -underBinder done
          have hdone : ∀ u, Yields (done u) Node.ElemsApt := by
            refine fun u => hpattern.bind fun n hn => .pure ?_
            simpa using Node.apt_of_parts (f := .restPattern n none) rfl (by simp [hn])
          split
          · exact .after hdone
          · exact hdone ()
        clear_value checked
        split
        · exact .after hchecked
        · exact hchecked ()
      · next hcount heq =>
        cases hcount
        cases heq
        exact (helem _).bind fun n hn => (hrest _).bind fun l hl => .pure (by simp [hn, hl])

/-- What `patternOf` makes of a phrase that may stand anywhere, if its parts become patterns. -/
theorem patternOf_mk_apt {use : PatternUse} {s : Span} {f : Form Node} (h : (Node.mk s f).Apt)
    (hparts : ∀ p ∈ f.parts, p.Apt → ∀ use, Yields (patternOf use p) Node.Apt)
    (hwithin : ∀ p ∈ f.parts, PartsAsPatterns p) : Yields (patternOf use (.mk s f)) Node.Apt := by
  unfold patternOf
  extract_lets -underBinder rest
  -- a phrase becomes a pattern of the same parts, each made a pattern itself, or stays as it is
  have hrest : ∀ u, Yields (rest u) Node.Apt := by
    intro u
    unfold rest
    split
    · exact .pure h
    · exact .after fun _ => .check fun _ => .pure bindingOf_apt
    · next props =>
      have htidy : ∀ p ∈ props, p.Tidy := fun p hp => h.tidy.part hp
      refine (propsOf_apt htidy hwithin).bind fun l hl => ?_
      exact .pure (Node.apt_of_parts rfl (by simp [hl]))
    · next elems =>
      have helems : Node.AllApt (elems.filterMap id) := h.tidy.of_mk rfl
      have hpart : ∀ o ∈ elems, ∀ p ∈ o, p ∈ elems.filterMap id := fun o ho p hp =>
        List.mem_filterMap.2 ⟨o, ho, hp⟩
      refine (elemsOf_apt (Node.allApt_filterMap_id.1 helems) ?_ ?_).bind fun l hl => ?_
      · exact fun o ho p hp => hparts p (hpart o ho p hp) (helems p (hpart o ho p hp))
      · exact fun o ho p hp => hwithin p (hpart o ho p hp)
      · exact .pure (Node.apt_of_parts rfl (by simp [hl]))
    · next left right =>
      have hsides : Node.AllApt [left, right] := h.tidy.of_mk rfl
      simp only [Node.allApt_cons, Node.allApt_nil, and_true] at hsides
      refine .ite (.pure h) ?_
      extract_lets -underBinder done
      have hdone : ∀ n : Node, n.Apt → Yields (done n) Node.Apt := fun n hn =>
        .pure (Node.apt_of_parts rfl (by simp [hn, hsides.2]))
      clear_value done
      have hleft := hparts left (by simp) hsides.1
      split
      iterate 2 exact .give (hdone _ hsides.1)
      · exact patternOfName_apt.bind hdone
      · exact (hleft use).bind hdone
    · split
      · exact .pure h
      · split
        iterate 15 exact .after fun _ => .check fun _ => .pure h
        · refine .after fun _ => .after fun _ => .ite ?_ noPattern_apt
          exact .after fun _ => .pure (Node.apt_leaf rfl rfl)
        · exact .after fun _ => noPattern_apt
      · split
        · refine .after fun _ => .ite ?_ noPattern_apt
          exact .after fun _ => .pure (Node.apt_leaf rfl rfl)
        · exact noPattern_apt
  refine .ite ?_ (hrest ())
  split
  iterate 3 exact hrest ()
  exact .after hrest

/-- **An expression that turns out to be a pattern** is no property either. -/
theorem patternOf_apt {use : PatternUse} {expr : Node} (h : expr.Apt) :
    Yields (patternOf use expr) Node.Apt := by
  -- the parts of an object are properties, whose values become patterns: two levels are needed at once
  suffices hboth : (expr.Apt → ∀ use, Yields (patternOf use expr) Node.Apt) ∧ PartsAsPatterns expr from
    hboth.1 h use
  have htidy := h.tidy
  clear h
  induction htidy with
  | @intro n parts _ ih =>
    refine ⟨fun h use => ?_, fun p hp => (ih p hp).1⟩
    cases n with
    | mk s f => exact patternOf_mk_apt h (fun p hp => (ih p hp).1) fun p hp => (ih p hp).2

theorem parametersOf_one_apt {item : Node} (h : item.Apt) : Yields (parametersOf.one item) Node.Apt := by
  unfold parametersOf.one
  split
  iterate 4 exact .pure h
  exact patternOf_apt h

/-- **What was read in brackets, as parameters.** -/
theorem parametersOf_apt {items : List Node} {comma : Option Span} (h : Node.AllApt items) :
    Yields (parametersOf items comma) Node.AllApt := by
  refine .bind (p := Node.AllApt) (.filterMapM fun item hitem => ?_) fun early hearly => ?_
  · -- the last item may be the rest of the parameters, and no other one
    split
    iterate 2 exact .after fun _ => .pure Node.maybeApt_none
    · have hone := parametersOf_one_apt (h item ((List.dropLast_sublist items).subset hitem))
      exact hone.thenSome
  extract_lets -underBinder rest
  have hrest : ∀ l, Node.AllApt l → Yields (rest l) Node.AllApt := by
    intro l hl
    have hall : Node.AllApt (early ++ l) := by simp [hearly, hl]
    exact .after fun _ => .check₂ fun _ => .pure hall
  clear_value rest
  split
  · exact .give (hrest _ Node.allApt_nil)
  · next item hlast =>
    have hitem : item.Apt := h item (List.mem_of_getLast? hlast)
    split
    · next arg hform =>
      have harg : arg.Apt := hitem.tidy.onlyPart hform rfl rfl
      extract_lets -underBinder checked
      have hchecked : ∀ u, Yields (checked u) Node.AllApt := by
        intro u
        unfold checked
        extract_lets -underBinder done
        have hdone : ∀ u, Yields (done u) Node.AllApt := by
          refine fun u => (patternOf_apt harg).bind fun n hn => .give (hrest _ ?_)
          simpa using Node.apt_of_parts (f := .restPattern n none) rfl (by simp [hn])
        split
        · exact .after hdone
        · exact hdone ()
      clear_value checked
      split
      · exact .after hchecked
      · exact hchecked ()
    · extract_lets -underBinder done
      have hdone : ∀ u, Yields (done u) Node.AllApt := fun u => .give (hrest _ (by simp [hitem]))
      split
      · exact .after hdone
      · exact hdone ()
    · exact (parametersOf_one_apt hitem).bind fun n hn => .give (hrest _ (by simp [hn]))

end Read

end EnvSchema.Script
