import EnvSchema.Script.Reader.Types

/-!
# Functions

* `Read.functionBody?`, `Read.arrowBody` — what a function does;
* `Read.functionRest` — parameters, type and body, which follow the name of a function or method;
* `Read.function` — a function from its keyword on.
-/

namespace EnvSchema.Script

namespace Node

/-- Whether a parameter is a name alone. -/
def isPlainParam (n : Node) : Bool :=
  match n.form with
  | .param (.mk _ (.binding ..)) | .binding .. => true
  | .paramProperty _ (.mk _ (.binding ..)) => true
  | _ => false

/-- Whether a parameter stands for the `this` of its function. -/
def isThisParam (n : Node) : Bool :=
  match n.form with
  | .param (.mk _ (.binding "this" ..)) => true
  | _ => false

/-- The place of the default of a parameter, if it has one. -/
def paramDefault? (n : Node) : Option Span :=
  match n.form with
  | .param p | .paramProperty _ p =>
    match p.form with
    | .assignPattern .. => some p.span
    | _ => none
  | _ => none

/-- Whether a statement is a text alone. -/
def isDirective (n : Node) : Bool :=
  match n.form with
  | .exprStatement (.mk _ (.string ..)) => true
  | _ => false

/-- Whether a statement asks for strict reading. -/
def isUseStrict (n : Node) : Bool :=
  match n.form with
  | .exprStatement (.mk _ (.string _ raw)) => raw == "\"use strict\"" || raw == "'use strict'"
  | _ => false

/-- The statement in a body that asks for strict reading. -/
def useStrict? (n : Node) : Option Node :=
  match n.form with
  | .block body => (body.takeWhile isDirective).find? isUseStrict
  | _ => none

end Node

namespace Read

variable {α : Type}

/-- Runs a step for the body of a function, which has labels of its own. -/
def freshBody (step : Read α) : Read α := do
  let r ← get
  set { r with labels := [], arrowStart := none, trailingCommas := [] }
  let res ← outcome step
  modify fun s => { s with
    labels := r.labels, arrowStart := r.arrowStart, trailingCommas := r.trailingCommas }
  settle res

/-- Runs a step at the place of a function's body. -/
def asBody (isAsync isGenerator isArrow : Bool) (step : Read α) : Read α := do
  if ← (pure (← context).inDeclare <&&> hasTypes <&&> sees "\x7b") then
    report (← curSpan) .bodyInAmbient
  within (fun c => { c with
      inAsync := isAsync
      inGenerator := isGenerator
      inFunctionScope := if isArrow then c.inFunctionScope else true
      inFunction := true
      canBreak := false
      canContinue := false
      expectsColon := false }) do
    freshBody step

/-- Patterns among the parameters rule out a directive in the body. -/
def checkDirective (isPlain : Bool) (body : Node) : Read Unit := do
  if !(← hasTypes) && !isPlain then
    if let some s := body.useStrict? then report s.span .strictDirectiveWithPatterns

/-- **The body of a function**; with types, a semicolon may stand for it. -/
def functionBody? (g : Grammar) (isAsync isGenerator isPlain : Bool) : Read (Option Node) :=
  asBody isAsync isGenerator false do
    if ← (hasTypes <&&> notM (sees "\x7b") <&&> eatStatementEnd) then return none
    let body ← within (fun c => { c with includeIn := true }) (g.block true)
    checkDirective isPlain body
    return some body

/-- The body of an arrow function: statements between braces, or an expression. -/
def arrowBody (g : Grammar) (isAsync isPlain : Bool) : Read Node :=
  asBody isAsync false true do
    if ← sees "\x7b" then
      let body ← g.block false
      checkDirective isPlain body
      return body
    else g.assign

/-- Type parameters, where an element might start as well. -/
def functionTypeParams? (g : Grammar) : Read (Option Node) := do
  if !(← hasTypes) then return none
  inType do
    if ← sees "<" then return some (← typeParams g false true)
    else if ← seesToken Token.isTagStart then
      -- the bracket seemed to open a tag, which is left again
      modify fun r => { r with modes := r.modes.tail.tail }
      return some (← typeParams g false true)
    else return none

/-- **Parameters, type and body of a function** that started at a place. -/
def functionRest (g : Grammar) (start : Nat) (params : Read (List Node))
    (isAsync isGenerator : Bool) : Read Node :=
  within (fun c => { c with inAsync := isAsync, inGenerator := isGenerator }) do
    let tps ← functionTypeParams? g
    expect "("
    let params ← within (fun c => { c with inParameters := true, inFunction := false }) params
    expect ")"
    let type ← when? (← (hasTypes <&&> sees ":")) (resultType g ":")
    let body ← functionBody? g isAsync isGenerator (params.all Node.isPlainParam)
    if (← hasTypes) && body.isNone then
      (params.filterMap Node.paramDefault?).forM fun s => report s .parameterInit
    nodeFrom start (.function isAsync isGenerator params body tps type)

/-- Within a function that is no method. -/
def asPlainFunction (step : Read α) : Read α :=
  within (fun c => { c with allowSuper := false, inClassField := false }) step

/-- **A function from its keyword on**: its name and the rest. -/
def function (g : Grammar) (asyncStart : Option Nat) (isExpr needsName : Bool) :
    Read (Option Node × Node) := do
  let start ← match asyncStart with
    | some s => pure s
    | none => curPos
  let isAsync := asyncStart.isSome
  bump
  let isGenerator ← eat "*"
  let named : Read (Option Node) :=
    if needsName then return some (← bindingIdent false) else bindingIdent? false
  let named ← asPlainFunction <|
    if isExpr then
      within (fun c => { c with inAsync := isAsync, inGenerator := isGenerator }) named
    else named
  asPlainFunction do
    within (fun c => { c with expectsColon := false }) do
      let rest ← functionRest g start (parameters g) isAsync isGenerator
      if isExpr then
        if let .function _ _ _ none _ _ := rest.form then unexpected "\x7b"
      return (named, rest)

/-- A function as an expression. -/
def functionExpr (g : Grammar) (asyncStart : Option Nat) : Read Node := do
  let start ← match asyncStart with
    | some s => pure s
    | none => curPos
  let (named, rest) ← function g asyncStart true false
  nodeFrom start (.functionExpr named rest)

/-- A function as a declaration. -/
def functionDecl (g : Grammar) (asyncStart : Option Nat) : Read Node := do
  let start ← match asyncStart with
    | some s => pure s
    | none => curPos
  let (named, rest) ← function g asyncStart false true
  nodeFrom start (.functionDecl false (named.getD default) rest)

/-- The parameters of a getter, which has none. -/
def getterParameters (g : Grammar) (span : Span) : Read (List Node) := do
  let params ← parameters g
  if params.any (! ·.isThisParam) then report span .getterParameters
  return params

/-- The parameter of a setter. -/
def setterParameters (g : Grammar) (span : Span) : Read (List Node) := do
  let params ← parameters g
  if (params.filter (! ·.isThisParam)).length != 1 then report span .setterParameters
  match params with
  | p :: _ => if p.isRest then report p.span .restInSetter
  | [] => pure ()
  return params

end Read

end EnvSchema.Script
