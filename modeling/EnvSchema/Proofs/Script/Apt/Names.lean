import EnvSchema.Proofs.Script.Properties
import EnvSchema.Proofs.Script.Yields

/-!
# Names and keys are no properties

Every reader of phrases builds the phrase that it answers from phrases that other readers have
answered. In these modules it is shown of one reader after the other that what it answers may stand
outside of objects. Only the reader of properties answers a property, and only objects take it.

* `Grammar.Apt` — the readers of the phrases that contain one another answer such phrases;
* `Read.node_apt`, `Read.leaf_apt` — a phrase that is built from others, or from none;
* `Read.name_apt`, `Read.propertyKey_apt`, `Read.colonType?_apt`, … — names, keys and annotations.
-/

namespace EnvSchema.Script

/-- **A grammar whose readers answer phrases that may stand outside of objects.** -/
structure Grammar.Apt (g : Grammar) : Prop where
  expr : Read.Yields g.expr Node.Apt
  assign : Read.Yields g.assign Node.Apt
  unary : Read.Yields g.unary Node.Apt
  leftHand : Read.Yields g.leftHand Node.Apt
  memberOrNew : ∀ isNew, Read.Yields (g.memberOrNew isNew) Node.Apt
  subscripts : ∀ n noCall noComputed, n.Apt → Read.Yields (g.subscripts n noCall noComputed) Node.Apt
  pattern : ∀ noLet, Read.Yields (g.pattern noLet) Node.Apt
  statement : Read.Yields g.statement Node.Apt
  statementItem : Read.Yields g.statementItem Node.Apt
  moduleItem : Read.Yields g.moduleItem Node.Apt
  block : ∀ directives, Read.Yields (g.block directives) Node.Apt
  type : Read.Yields g.type Node.Apt
  operatorType : Read.Yields g.operatorType Node.Apt
  element : Read.Yields g.element Node.Apt
  innerNamespace : Read.Yields g.innerNamespace Node.Apt

/-- Nothing is read from a text that is nested too deep. -/
theorem Grammar.none_apt : Grammar.none.Apt := by
  constructor <;> intros <;> exact .after fun _ => .fail

theorem Grammar.Apt.assignIn {g : Grammar} (hg : g.Apt) : Read.Yields g.assignIn Node.Apt :=
  .within hg.assign

theorem Grammar.Apt.exprIn {g : Grammar} (hg : g.Apt) : Read.Yields g.exprIn Node.Apt :=
  .within hg.expr

namespace Read

variable {g : Grammar} {start : Nat} {f : Form Node}

-- phrases are built from parts that are known one by one
attribute [local simp] Form.parts

/-- **A phrase built from others** that is no property. -/
theorem node_apt (hf : f.isProperty = false) (h : Node.AllApt f.parts) :
    Yields (nodeFrom start f) Node.Apt :=
  .after fun _ => .pure (Node.apt_of_parts hf h)

/-- A phrase without parts. -/
theorem leaf_apt (hf : f.isProperty = false) (h : f.parts = []) : Yields (nodeFrom start f) Node.Apt :=
  .after fun _ => .pure (Node.apt_leaf hf h)

/-! ### Names -/

theorem name_apt : Yields name Node.Apt := by
  refine .after fun start => .after fun t => ?_
  split
  · exact .after fun _ => leaf_apt rfl rfl
  · exact .after fun c => .ite (.after fun _ => leaf_apt rfl rfl) .stopHere
  · exact .stopHere

theorem privateName_apt : Yields privateName Node.Apt :=
  .after fun _ => .after fun _ => .after fun _ => .after fun _ => .check₂ fun _ =>
    .after fun _ => leaf_apt (f := .privateName _) rfl rfl

theorem maybePrivateName_apt : Yields maybePrivateName Node.Apt :=
  .after fun _ => .ite privateName_apt name_apt

theorem ident_apt {withYield withAwait : Bool} : Yields (ident withYield withAwait) Node.Apt := by
  refine .after fun start => .after fun _ => .after fun b => .check fun _ => ?_
  refine .after fun w => .after fun r => .after fun c => .after fun typed => ?_
  -- whatever is reported of the word, the phrase is a name
  extract_lets named checked asynchronous awaited allowed
  have hnamed : ∀ u, Yields (named u) Node.Apt := fun _ => leaf_apt rfl rfl
  have hchecked : ∀ u, Yields (checked u) Node.Apt := fun _ => .ite (.after hnamed) (hnamed ())
  have hasync : ∀ u, Yields (asynchronous u) Node.Apt := fun _ =>
    .ite (.after hchecked) (hchecked ())
  have hawaited : ∀ u, Yields (awaited u) Node.Apt := fun _ => .ite (.after hasync) (hasync ())
  have hallowed : ∀ u, Yields (allowed u) Node.Apt := fun _ =>
    .ite (.ite (.after hawaited) (hawaited ())) (hasync ())
  exact .ite (.after hallowed) (.ite (.after hallowed) (hallowed ()))

theorem identRef_apt : Yields identRef Node.Apt := .after fun _ => ident_apt

theorem bindingIdent_apt {noLet : Bool} : Yields (bindingIdent noLet) Node.Apt :=
  .after fun _ => .check fun _ => .after fun _ => .after fun _ =>
    .check fun _ => .check fun _ => .check fun _ => .pure (Node.apt_leaf rfl rfl)

theorem bindingIdent?_apt {noLet : Bool} : Yields (bindingIdent? noLet) Node.MaybeApt :=
  .after fun _ => .ite bindingIdent_apt.thenSome
    (.pure Node.maybeApt_none)

theorem literal_apt : Yields literal Node.Apt := by
  refine .after fun start => .after fun t => ?_
  split
  iterate 6 exact .after fun _ => leaf_apt rfl rfl
  exact .stopHere

theorem templateText_apt {tagged : Bool} : Yields (templateText tagged) Node.Apt := by
  refine .after fun start => .after fun t => ?_
  split
  · refine .after fun _ => ?_
    extract_lets piece
    have hpiece : ∀ o, Yields (piece o) Node.Apt := fun _ => .after fun _ => leaf_apt rfl rfl
    split
    · exact .after hpiece
    · exact .ite (.after hpiece) (.after hpiece)
  · exact .unexpected

theorem exportedName_apt : Yields exportedName Node.Apt := by
  refine .after fun t => ?_
  split
  · exact literal_apt
  · exact name_apt
  · exact .unexpected

/-! ### Keys -/

theorem moreInBrackets_apt (hg : g.Apt) {first : Node} (hfirst : first.Apt) :
    Yields (moreInBrackets g start first) Node.Apt := by
  refine .bind (p := Node.AllApt) ?_ fun exprs hexprs => ?_
  · refine .loop (Node.AllApt) (by simp [hfirst]) fun out hout => ?_
    refine .after fun _ => .ite (hg.assignIn.bind fun n hn => ?_) (.pure hout)
    exact .pure (by simp [hout, hn])
  · exact .after fun span => .after fun _ => .pure (Node.apt_of_parts rfl hexprs)

theorem propertyKey_apt (hg : g.Apt) : Yields (propertyKey g) Node.Apt := by
  refine .within (.after fun start => .after fun t => ?_)
  split
  iterate 4 exact .after fun _ => leaf_apt rfl rfl
  · refine .after fun _ => .after fun inner => hg.assignIn.bind fun first hfirst => .after fun _ => ?_
    refine .either Node.Apt (moreInBrackets_apt hg hfirst) (.pure hfirst) fun n hn => ?_
    exact .after fun _ => node_apt rfl (by simp [hn])
  · exact .unexpected

theorem memberKey_apt (hg : g.Apt) : Yields (memberKey g) Node.Apt := by
  refine .after fun _ => .ite (privateName_apt.bind fun key hkey => ?_) (propertyKey_apt hg)
  extract_lets done
  have hdone : ∀ u, Yields (done u) Node.Apt := fun _ => .pure hkey
  split
  · exact .after hdone
  · exact hdone ()

/-! ### Annotations -/

theorem typeFrom_apt (hg : g.Apt) : Yields (typeFrom g start) Node.Apt := by
  refine .inType (hg.type.bind fun n hn => ?_)
  exact node_apt rfl (by simp [hn])

theorem colonType_apt (hg : g.Apt) : Yields (colonType g) Node.Apt := by
  refine .after fun start => .inType (.after fun _ => hg.type.bind fun n hn => ?_)
  exact node_apt rfl (by simp [hn])

theorem colonType?_apt (hg : g.Apt) : Yields (colonType? g) Node.MaybeApt :=
  .after fun _ => .ite (colonType_apt hg).thenSome
    (.pure Node.maybeApt_none)

end Read

end EnvSchema.Script
