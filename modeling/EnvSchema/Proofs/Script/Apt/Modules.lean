import EnvSchema.Proofs.Script.Apt.Expressions
import EnvSchema.Proofs.Script.Apt.Statements
import EnvSchema.Script.Reader.Modules

/-!
# The items of a module are no properties

* `Read.importStatement_apt`, `Read.exportStatement_apt` — imports and exports;
* `Read.moduleItemOf_apt` — any item.
-/

namespace EnvSchema.Script.Read

variable {g : Grammar} {start : Nat}

-- phrases are built from parts that are known one by one
attribute [local simp] Form.parts

/-! ### Imports -/

theorem importedBinding_apt : Yields importedBinding Node.Apt := .within bindingIdent_apt

theorem importTarget_apt : Yields importTarget Node.Apt := by
  refine .after fun _ => .ite (.after fun start => .after fun _ => .after fun _ => .after fun t => ?_) ?_
  · extract_lets -underBinder rest
    have hrest : ∀ u, Yields (rest u) Node.Apt := by
      refine fun _ => literal_apt.bind fun source hsource => .after fun _ => ?_
      exact node_apt rfl (by simp [hsource])
    split
    · exact hrest ()
    · exact .after hrest
  · exact entityName_apt

theorem importEquals_apt {id : Node} (h : id.Apt) {isExport typeOnly : Bool} :
    Yields (importEquals start id isExport typeOnly) Node.Apt := by
  refine .after fun _ => importTarget_apt.bind fun target htarget => .after fun _ => ?_
  exact node_apt rfl (by simp [h, htarget])

theorem sourceText_apt : Yields sourceText Node.Apt := by
  refine .after fun t => ?_
  split
  · exact literal_apt
  · exact .unexpected

/-- The names that the words `type as` turn out to be may stand anywhere. -/
structure TypeName.Apt (n : TypeName) : Prop where
  name_apt : n.name.Apt
  other_apt : Node.MaybeApt n.other

theorem typeNames_apt {typeWord : Node} {inTypeList : Bool} {fault : Fault} {other : Read Node}
    (hword : typeWord.Apt) (hother : Yields other Node.Apt) :
    Yields (typeNames typeWord inTypeList fault other) TypeName.Apt := by
  refine name_apt.bind fun first hfirst => .ite ?_ (.after fun _ => .ite ?_ ?_)
  · exact .after fun _ => .pure ⟨hfirst, Node.maybeApt_none⟩
  · exact .after fun _ => .pure ⟨hfirst, Node.maybeApt_none⟩
  refine hother.bind fun second hsecond => .ite (.after fun _ => .ite ?_ ?_) ?_
  · refine hother.bind fun third hthird => .after fun _ => .pure ?_
    exact ⟨hfirst, Node.maybeApt_some.2 hthird⟩
  iterate 2 exact .pure ⟨hword, Node.maybeApt_some.2 hsecond⟩

theorem importSpecifier_apt {typeOnly : Bool} : Yields (importSpecifier typeOnly) Node.Apt := by
  refine .after fun start => exportedName_apt.bind fun orig horig => ?_
  split
  · refine .after fun _ => .ite (bindingIdent_apt.bind fun bound hbound => .pure ?_) .stop
    exact Node.apt_of_parts rfl (by simp [hbound, horig])
  · refine .after fun _ => .either TypeName.Apt (typeNames_apt horig bindingIdent_apt) ?_ ?_
    · exact .pure ⟨horig, Node.maybeApt_none⟩
    rintro named ⟨hname, hother⟩
    refine .ite ?_ (.after fun _ => .ite (bindingIdent_apt.bind fun bound hbound => .pure ?_) ?_)
    · split
      · exact node_apt rfl (by simp_all)
      · exact node_apt rfl (by simp [hname])
    · exact Node.apt_of_parts rfl (by simp [hbound, hname])
    · exact node_apt rfl (by simp [hname])

theorem defaultImport_apt : Yields defaultImport (Node.MaybeApt ·.1) := by
  have hnone {b : Bool} {s : String} : Yields (pure (none, b, s)) fun x => Node.MaybeApt x.1 :=
    .pure Node.maybeApt_none
  have hsome {n : Node} {b : Bool} {s : String} (hn : n.Apt) :
      Yields (pure (some n, b, s)) fun x => Node.MaybeApt x.1 := .pure (Node.maybeApt_some.2 hn)
  refine .after fun _ => .ite hnone (importedBinding_apt.bind fun first hfirst => .after fun typed => ?_)
  extract_lets -underBinder rest
  -- a name that could be a word of the language is read once more; what follows the name is the same
  have hrest : ∀ x, x.1.Apt → Yields (rest x) (Node.MaybeApt ·.1) := by
    rintro ⟨bound, typeOnly⟩ hbound
    refine .after fun _ => .ite (hsome hbound) ?_
    extract_lets -underBinder word plain
    have hplain : ∀ u, Yields (plain u) (Node.MaybeApt ·.1) := fun _ =>
      .after fun _ => .ite (.after fun _ => hsome hbound) (hsome hbound)
    clear_value plain
    refine .ite (.after fun _ => .ite hnone (.after fun _ => .ite ?_ (hplain ()))) (hplain ())
    refine importedBinding_apt.bind fun bound hbound => .after fun _ => ?_
    exact .ite (.after fun _ => hsome hbound) (hsome hbound)
  clear_value rest
  have hplain := hrest (first, false) hfirst
  refine .ite (.after fun _ => .ite hnone (.after fun _ => .ite ?_ (.give hplain))) (.give hplain)
  refine .after fun _ => .ite (importedBinding_apt.bind fun n hn => .give (hrest (n, true) hn)) ?_
  refine .after fun _ => .ite (.after fun id => .give (hrest _ ?_)) (.give hplain)
  exact Node.apt_leaf rfl rfl

theorem nameList_apt {item : Read Node} (h : Yields item Node.Apt) :
    Yields (nameList item) Node.AllApt := by
  refine .bind (p := Node.AllApt) ?_ fun names hnames => .after fun _ => .pure hnames
  refine .loop Node.AllApt Node.allApt_nil fun out hout => .after fun _ => .ite (.pure hout) ?_
  refine h.bind fun n hn => .after fun _ => ?_
  have hmore : Node.AllApt (out ++ [n]) := hout.append_singleton hn
  exact .ite (.pure hmore) (.after fun _ => .pure hmore)

theorem namedImports_apt {typeOnly : Bool} {phase : String} :
    Yields (namedImports typeOnly phase) Node.AllApt :=
  .after fun _ => .ite (nameList_apt importSpecifier_apt) (.pure Node.allApt_nil)

/-- **An import.** -/
theorem importStatement_apt (hg : g.Apt) : Yields (importStatement g) Node.Apt := by
  refine .after fun start => .after fun _ => .ite ?_ (.after fun _ => .after fun _ => .after fun t => ?_)
  · refine hg.expr.bind fun expr hexpr => .after fun _ => ?_
    exact node_apt rfl (by simp [hexpr])
  split
  · refine literal_apt.bind fun source hsource => .after fun _ => ?_
    exact node_apt rfl (by simp [hsource])
  · refine defaultImport_apt.bind ?_
    rintro ⟨bound, typeOnly, phase⟩ hbound
    dsimp -zeta only at hbound ⊢
    split
    · exact importEquals_apt (Node.apt_leaf rfl rfl)
    · extract_lets -underBinder first
      have hfirst : Node.MaybeApt first := by
        intro n hn
        obtain ⟨b, hb, rfl⟩ := Option.map_eq_some_iff.1 hn
        exact Node.apt_of_parts rfl (by simp [hbound b hb])
      clear_value first
      refine .after fun pos => .after fun _ => ?_
      extract_lets -underBinder done
      -- the names in braces or the one that stands for all follow the first name, and then the source
      have hdone : ∀ l, Node.AllApt l → Yields (done l) Node.Apt := by
        refine fun l hl => .after fun _ => sourceText_apt.bind fun source hsource => .after fun _ => ?_
        exact node_apt rfl (by simp [hfirst, hl, hsource])
      clear_value done
      refine .ite (.after fun _ => importedBinding_apt.bind fun b hb => ?_) (namedImports_apt.bind hdone)
      refine (node_apt rfl (by simp [hb])).bind fun n hn => .give (hdone _ ?_)
      simpa using hn

/-! ### Exports -/

theorem exportSpecifier_apt {typeOnly : Bool} : Yields (exportSpecifier typeOnly) Node.Apt := by
  refine .after fun start => exportedName_apt.bind fun orig horig => .after fun _ => ?_
  refine .either TypeName.Apt (typeNames_apt horig name_apt) (.pure ⟨horig, Node.maybeApt_none⟩) ?_
  rintro named ⟨hname, hother⟩
  refine .ite (node_apt rfl (by simp [hname, hother])) (.after fun _ => ?_)
  refine (Yields.when? exportedName_apt).bind fun other (hother : Node.MaybeApt other) => ?_
  exact node_apt rfl (by simp [hname, hother])

theorem fromClause_apt : Yields fromClause Node.Apt :=
  .after fun _ => sourceText_apt.bind fun _ hsource => .after fun _ => .pure hsource

theorem exportList_apt {typeOnly : Bool} : Yields (exportList start typeOnly) Node.Apt := by
  refine .after fun pos => .after fun _ => .ite (.after fun _ => .ite ?_ (.after fun _ => ?_)) ?_
  · refine fromClause_apt.bind fun source hsource => ?_
    exact node_apt rfl (by simp [hsource])
  · refine exportedName_apt.bind fun n hn => ?_
    refine (node_apt rfl (by simp [hn])).bind fun spec hspec => ?_
    refine fromClause_apt.bind fun source hsource => ?_
    exact node_apt rfl (by simp [hspec, hsource])
  refine .after fun _ => (nameList_apt exportSpecifier_apt).bind fun names hnames => ?_
  refine .after fun _ => .ite ?_ ?_
  · refine fromClause_apt.bind fun source hsource => ?_
    exact node_apt rfl (by simp [hnames, hsource])
  · exact .after fun _ => .after fun _ => node_apt rfl (by simp [hnames])

theorem exportDefault_apt (hg : g.Apt) : Yields (exportDefault g start) Node.Apt := by
  have hdecl {n : Node} (hn : n.Apt) : Yields (nodeFrom start (.exportDefault n)) Node.Apt :=
    node_apt rfl (by simp [hn])
  refine .after fun _ => ?_
  extract_lets -underBinder rest
  -- behind the words there is a class, a function or an expression
  have hrest : ∀ u, Yields (rest u) Node.Apt := by
    refine fun _ => .after fun _ => .ite ?_ (.after fun _ => .ite (.after fun pos => .after fun _ => ?_) ?_)
    · exact (classExpr_apt hg).bind fun n hn => hdecl hn
    · refine (function_apt hg).bind ?_
      rintro ⟨named, rest⟩ ⟨hnamed, hrest⟩
      exact hdecl (Node.apt_of_parts rfl (by simp_all))
    · refine .after fun _ => .ite ((function_apt hg).bind ?_) ?_
      · rintro ⟨named, rest⟩ ⟨hnamed, hrest⟩
        exact hdecl (Node.apt_of_parts rfl (by simp_all))
      · refine hg.assignIn.bind fun expr hexpr => .after fun _ => ?_
        exact node_apt rfl (by simp [hexpr])
  clear_value rest
  refine .ite (.after fun _ => .ite (.after fun pos => .after fun _ => ?_) ?_) (hrest ())
  · refine (classRest_apt hg).bind ?_
    rintro ⟨named, body⟩ ⟨hnamed, hbody⟩
    exact hdecl (Node.apt_of_parts rfl (by simp_all))
  · refine .after fun _ => ?_
    extract_lets -underBinder typed
    have htyped : ∀ u, Yields (typed u) Node.Apt := fun _ =>
      .after fun _ => .ite (.after fun pos => .after fun _ => (interface_apt hg).bind fun n hn => hdecl hn)
        (hrest ())
    exact .ite (.after fun _ => .after fun _ => .after htyped) (htyped ())

theorem typedExport?_apt (hg : g.Apt) : Yields (typedExport? g start) Node.MaybeApt := by
  refine .after fun _ => .ite (.pure Node.maybeApt_none) (.after fun pos => .after fun _ => ?_)
  have hdecl {n : Node} (hn : n.Apt) :
      Yields (do return some (← nodeFrom start (.exportDecl n))) Node.MaybeApt :=
    Yields.thenSome (node_apt rfl (by simp [hn]))
  extract_lets -underBinder rest
  have hrest : ∀ u, Yields (rest u) Node.MaybeApt := by
    refine fun _ => .after fun t => ?_
    extract_lets -underBinder other
    -- an export that is none of types is left to the caller
    have hother : ∀ u, Yields (other u) Node.MaybeApt := by
      refine fun _ => .after fun _ => .ite (.after fun typeOnly => .check fun _ => ?_) (.after fun _ => ?_)
      · exact name_apt.bind fun id hid => (importEquals_apt hid).thenSome
      refine .ite (hg.expr.bind fun expr hexpr => .after fun _ => ?_) (.after fun _ => .ite ?_ ?_)
      · exact Yields.thenSome (node_apt rfl (by simp [hexpr]))
      · refine .after fun _ => ident_apt.bind fun id hid => .after fun _ => ?_
        exact Yields.thenSome (node_apt rfl (by simp [hid]))
      · exact .pure Node.maybeApt_none
    clear_value other
    split
    · exact .tried (.attempt (.after fun _ => wordDeclaration?_apt hg)) (fun _ => hdecl) (hother ())
    · exact hother ()
  clear_value rest
  exact .ite (.tried (declared?_apt hg) (fun _ => hdecl) (hrest ())) (hrest ())

/-- **An export.** -/
theorem exportStatement_apt (hg : g.Apt) : Yields (exportStatement g) Node.Apt := by
  refine .after fun start => .after fun _ => .after fun _ => ?_
  refine .tried (typedExport?_apt hg) (fun _ => .pure) ?_
  have hdecl {step : Read Node} (h : Yields step Node.Apt) :
      Yields (do nodeFrom start (.exportDecl (← step))) Node.Apt :=
    h.bind fun n hn => node_apt rfl (by simp [hn])
  refine .after fun _ => .eitherWay fun typeOnly => ?_
  refine .after fun _ => .ite (exportDefault_apt hg) (.after fun _ => ?_)
  refine .eitherWay fun isLet => .after fun pos => .after fun _ => ?_
  refine .ite (hdecl (classDecl_apt hg)) (.after fun _ => .ite ?_ (.after fun _ => .ite ?_ ?_))
  · exact .after fun _ => hdecl (functionDecl_apt hg)
  · exact hdecl (functionDecl_apt hg)
  refine .after fun _ => .ite (.after fun _ => .after fun _ => hdecl (enum_apt hg)) ?_
  exact .after fun _ => .ite (hdecl (varDeclaration_apt hg)) exportList_apt

/-- **A statement, an import or an export.** -/
theorem moduleItemOf_apt (hg : g.Apt) : Yields (moduleItemOf g) Node.Apt :=
  .after fun _ => .ite (importStatement_apt hg) (.after fun _ => .ite (exportStatement_apt hg)
    (plainStatement_apt hg))

end EnvSchema.Script.Read
