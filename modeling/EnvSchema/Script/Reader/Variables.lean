import EnvSchema.Script.Reader.Patterns
import EnvSchema.Script.Walk

/-!
# Declarations of variables

* `Read.verify` — an expression that was not a pattern after all may hold no defaults of one;
* `Read.declarator` — one variable or pattern with its value;
* `Read.varDeclaration`, `Read.usingDeclaration?` — a declaration.
-/

namespace EnvSchema.Script

namespace VarKind

/-- The kind of declaration that a word starts. -/
def ofWord (w : String) : VarKind :=
  match w with
  | "var" => hoisted
  | "let" => blockScoped
  | _ => constant

/-- The word that starts a declaration. -/
def word : VarKind → String
  | hoisted => "var"
  | blockScoped => "let"
  | constant => "const"

end VarKind

namespace Node

/-- Whether a phrase is a function as an expression. -/
def isFunctionExpr (n : Node) : Bool :=
  match n.form with
  | .functionExpr .. | .arrow .. => true
  | _ => false

/-- The defaults of patterns within an expression, those in functions left out. -/
def strayDefaults (n : Node) : List Node :=
  (n.nodesWhere fun m => !m.isFunctionExpr).filter fun m => match m.form with
    | .assignProperty .. => true
    | _ => false

end Node

namespace Read

/-- Records the defaults of patterns in an expression that is no pattern. -/
def verify (expr : Node) : Read Unit :=
  expr.strayDefaults.forM fun n => report n.span .assignProperty

/-- The value of a variable, or why there is none. -/
def initializer? (g : Grammar) (start : Nat) (pattern : Node) (kind : VarKind) (inFor : Bool) :
    Read (Option Node) := do
  if ← (pure inFor <&&> seesAny ["in", "of"]) then return none
  if ← eat "=" then
    let value ← g.assign
    verify value
    return some value
  if (← context).inDeclare then return none
  match pattern.form with
  | .binding .. =>
    if kind == .constant && !inFor then report (← spanFrom start) .constNeedsInit
    return none
  | _ =>
    if kind == .constant && !inFor then
      report (← spanFrom start) .constNeedsInit
      return none
    else stop (← spanFrom start) .patternNeedsInit

/-- **One variable or pattern with its value.** -/
def declarator (g : Grammar) (inFor : Bool) (kind : VarKind) : Read Node := do
  let start ← curPos
  let pattern ← g.pattern (kind != .hoisted)
  let typed ← hasTypes
  let isName := match pattern.form with
    | .binding .. => true
    | _ => false
  let definite ← if typed && isName then eat "!" else pure false
  let pattern ←
    if ← (pure typed <&&> sees ":") then pure (pattern.withType (some (← colonType g)))
    else pure pattern
  let value ← initializer? g start pattern kind inFor
  nodeFrom start (.declarator pattern value definite)

/-- Whether the word ahead is that of a loop over values, with no variable before it. -/
def seesLoopWithoutVariable (g : Grammar) : Read Bool := do
  if ← notM (hasTypes <&&> seesAny ["in", "of"]) then return false
  let res ← outcome <| lookAhead do
    bump
    let _ ← g.assign
    expect ")"
  return match res with
    | .ok _ => true
    | .error _ => false

/-- Reads on after a declaration that does not end where it should. -/
def skipDeclaration (g : Grammar) : Read Unit := do
  report (← curSpan) .semicolonExpected
  let _ ← outcome g.expr
  loop () fun _ => do
    if ← eatStatementEnd then return .inr ()
    bump
    if ← seesToken Token.isFaulty then return .inr ()
    return .inl ()

/-- **A declaration of variables**, at the head of a loop or as a statement. -/
def varDeclaration (g : Grammar) (inFor : Bool) : Read Node := do
  let start ← curPos
  let kind := VarKind.ofWord (← takeWord)
  let span ← spanFrom start
  if ← (pure inFor <&&> seesLoopWithoutVariable g) then
    report (.point span.hi) .emptyDeclaration
    return ← nodeFrom start (.varDecl kind false [])
  let one : Read Node :=
    if kind != .hoisted || !inFor then
      within (fun c => { c with includeIn := true }) (declarator g inFor kind)
    else declarator g inFor kind
  let decls ← loop ([] : List Node) fun out => do
    if ← (seesEnd <||> sees ";") then
      let prev := (← get).prevSpan
      report (if prev == span then .point prev.hi else prev) .trailingComma
      return .inr out
    let out := out ++ [← one]
    if ← eat "," then return .inl out else return .inr out
  if ← (pure (!inFor) <&&> notM eatStatementEnd) then skipDeclaration g
  nodeFrom start (.varDecl kind false decls)

/-- A declaration of resources, if the word ahead starts one. -/
def usingDeclaration? (g : Grammar) (start : Nat) (isAwait : Bool) : Read (Option Node) := do
  if ← (lineBreakBetween <||> notM seesNextIdent) then return none
  bump
  let decls ← loop ([] : List Node) fun out => do
    if ← (seesEnd <||> sees ";") then
      report (← get).prevSpan .trailingComma
      return .inr out
    let out := out ++ [← declarator g false .hoisted]
    if ← eat "," then return .inl out else return .inr out
  decls.forM fun d => do
    if let .declarator pattern value _ := d.form then
      match pattern.form with
      | .binding .. => pure ()
      | _ => report (← spanFrom start) .usingPattern
      if value.isNone then report (← spanFrom start) .usingNeedsInit
  expectStatementEnd
  return some (← nodeFrom start (.usingDecl isAwait decls))

end Read

end EnvSchema.Script
