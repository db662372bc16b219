import EnvSchema.Script.Reader.Cursor

/-!
# Phrases that contain one another

An expression may hold a function, whose body holds statements, which hold expressions. The readers
of such phrases are written one family after the other; what a family needs of the later ones, and
of itself one level deeper, it takes from a `Grammar`: the readers of all phrases that may contain
one another. Nothing in a family depends on how deep the nesting may still go.

* `Grammar` — the readers of the phrases that contain one another;
* `Grammar.none` — the grammar of a text that is nested too deep;
* `Grammar.assignIn` — an expression within brackets, where `in` is an operator again.
-/

namespace EnvSchema.Script

/-- **The readers of the phrases that contain one another.** -/
structure Grammar where
  /-- Expressions with commas between them. -/
  expr : Read Node
  /-- One expression, up to a comma. -/
  assign : Read Node
  /-- An expression without operators between operands. -/
  unary : Read Node
  /-- What a call or a template may follow. -/
  leftHand : Read Node
  /-- A member expression, or what `new` stands before. -/
  memberOrNew : Bool → Read Node
  /-- The members and calls behind an expression; the flags rule out calls and keys in brackets. -/
  subscripts : Node → Bool → Bool → Read Node
  /-- A name or a pattern of names; the flag says that `let` is no name there. -/
  pattern : Bool → Read Node
  /-- A statement that is no declaration. -/
  statement : Read Node
  /-- A statement or declaration. -/
  statementItem : Read Node
  /-- A statement, a declaration, an import or an export. -/
  moduleItem : Read Node
  /-- Statements between braces; the flag says that they may start with a directive. -/
  block : Bool → Read Node
  /-- A type. -/
  type : Read Node
  /-- A type without operators between operands. -/
  operatorType : Read Node
  /-- An element. -/
  element : Read Node
  /-- A namespace within another one. -/
  innerNamespace : Read Node
  deriving Inhabited

namespace Grammar

/-- **The grammar of a text that is nested too deep.** -/
def none : Grammar :=
  let give (_ : Unit) : Read Node := do Read.fail (.point (← get).pos) .tooDeep
  { expr := give (), assign := give (), unary := give (), leftHand := give ()
    memberOrNew := fun _ => give (), subscripts := fun _ _ _ => give ()
    pattern := fun _ => give (), statement := give ()
    statementItem := give (), moduleItem := give (), block := fun _ => give (), type := give ()
    operatorType := give (), element := give (), innerNamespace := give () }

/-- One expression, where `in` is an operator. -/
def assignIn (g : Grammar) : Read Node := Read.within (fun c => { c with includeIn := true }) g.assign

/-- Expressions with commas between them, where `in` is an operator. -/
def exprIn (g : Grammar) : Read Node := Read.within (fun c => { c with includeIn := true }) g.expr

end Grammar

end EnvSchema.Script
