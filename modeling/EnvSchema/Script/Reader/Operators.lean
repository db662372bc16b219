import EnvSchema.Script.Reader.Types

/-!
# Operators

* `Read.binaryRest` — the operators between operands behind a first operand, by their strength;
* `Read.binary`, `Read.conditional` — expressions with such operators;
* `Read.assignmentRest` — what is done with an expression that stands before a mark of assignment.
-/

namespace EnvSchema.Script

namespace Node

/-- Whether something may be given a value at all. -/
def isTarget (isPlain : Bool) (n : Node) : Bool :=
  match n.form with
  | .binding .. | .ident .. | .member .. | .superMember .. | .optionalChain .. | .paren _
  | .asType .. | .nonNull _ | .typeAssertion .. | .instantiation .. | .satisfies .. => true
  | .arrayPattern .. | .objectPattern .. | .invalid => isPlain
  | _ => false

/-- Whether the node is an operator between two operands, out of the given ones. -/
def isBinaryOf (ops : List String) (n : Node) : Bool :=
  match n.form with
  | .binary op _ _ => ops.contains op
  | _ => false

end Node

namespace Read

/-- Whether a node is an arrow function that started where one was expected. -/
def isArrowHere (n : Node) : Read Bool := do
  match n.form with
  | .arrow .. => return (← get).arrowStart == some n.lo
  | _ => return false

/-- Joins a mark of a type with the one right behind it, which was cut off because of the type. -/
def joinAngle : Read Unit := do
  if ← (pure (!(← context).inType) <&&> seesAny [">", "<"]) then
    let _ ← peekLexeme?
    modify fun r =>
      match r.current, r.next with
      | some ⟨.mark a, br, sa⟩, some ⟨.mark b, _, sb⟩ =>
        let both := a ++ b
        if sa.hi == sb.lo &&
            [">>", ">=", ">>>", ">>=", ">>>=", "<<", "<=", "<<="].contains both then
          { r with current := some ⟨.mark both, br, .cover sa sb⟩, next := none }
        else r
      | _, _ => r

/-- The types an expression is given behind it. -/
def typeOperators (g : Grammar) (left : Node) (strength : Nat) : Read Node :=
  loop left fun left => do
    if ← (notM hasTypes <||> pure (7 ≤ strength) <||> lineBreakBefore) then return .inr left
    let start := left.lo
    if ← sees "as" then
      if ← seesNext "const" then
        bump
        bump
        return .inl (← nodeFrom start (.constAssertion left))
      else
        let type ← inType do
          bump
          g.type
        joinAngle
        return .inl (← nodeFrom start (.asType left type))
    else if ← sees "satisfies" then
      let type ← inType do
        bump
        g.type
      joinAngle
      return .inl (← nodeFrom start (.satisfies left type))
    else return .inr left

/-- The operator between operands that is ahead, with its strength. -/
def operator? : Read (Option (String × Nat)) := do
  match ← cur? with
  | some (.word "in") => return if (← context).includeIn then some ("in", 7) else none
  | some (.word "instanceof") => return some ("instanceof", 7)
  | some (.mark m) => return (binaryMarks.lookup m).map (m, ·)
  | _ => return none

/-- Records operators that may not stand beside each other without brackets. -/
def checkMixed (node : Node) : Read Unit := do
  match node.form with
  | .binary op left right =>
    if op == "??" then
      if left.isBinaryOf ["&&", "||"] then report left.span .mixedNullish
      if right.isBinaryOf ["&&", "||"] then report right.span .mixedNullish
    else if op == "&&" || op == "||" then
      if left.isBinaryOf ["??"] then report node.span .mixedNullish
  | _ => pure ()

/-- **The operators behind a first operand** that bind closer than the given strength. -/
def binaryUpTo (g : Grammar) : Nat → Node → Nat → Read Node
  | 0, _, _ => do fail (.point (← get).pos) .tooDeep
  | fuel + 1, left, strength =>
    loop left fun left => do
      let left ← typeOperators g left strength
      match ← operator? with
      | none => return .inr left
      | some (op, s) =>
        if s ≤ strength then return .inr left
        bump
        if op == "**" then
          match left.form with
          | .unary .. | .await _ => stopHere .unaryBeforePower
          | _ => pure ()
        let first ← g.unary
        let right ← binaryUpTo g fuel first (if op == "**" then s - 1 else s)
        let node := Node.mk (.cover left.span right.span) (.binary op left right)
        checkMixed node
        return .inl node

/-- The operators behind a first operand. -/
def binaryRest (g : Grammar) (left : Node) : Read Node := do
  binaryUpTo g ((← get).size + 8) left 0

/-- **Operands with operators between them.** Where the first operand is missing, reading goes on at
the operator. -/
def binary (g : Grammar) : Read Node := do
  let left ← match ← outcome g.unary with
    | .ok n => pure n
    | .error d =>
      let _ ← cur
      if (← operator?).isSome then
        report (← curSpan) .expressionExpected
        pure (Node.mk d.span .invalid)
      else throw d
  if ← isArrowHere left then return left
  binaryRest g left

/-- **One of two expressions**, or operands with operators between them. -/
def conditional (g : Grammar) : Read Node := do
  let start ← curPos
  let test ← binary g
  if ← isArrowHere test then return test
  if ← eat "?" then
    let yes ← within (fun c =>
      { c with inConditional := true, expectsColon := true, includeIn := true }) g.assign
    expect ":"
    let no ← within (fun c => { c with inConditional := true, expectsColon := false }) g.assign
    return .mk ⟨start, no.hi⟩ (.conditional test yes no)
  else return test

/-- What is given a value by the mark ahead. -/
def assignmentTarget (op : String) (expr : Node) : Read Node := do
  let isPlain := op == "="
  let target ←
    if isPlain then patternOf .target expr
    else
      let typed ← hasTypes
      if !expr.isSimpleTarget (← context).strict then
        report expr.span (if typed then .targetNotAssignable else .notSimpleTarget)
      if typed && (expr.name?.map isReservedBinding).getD false then
        recordStrict expr.span .evalOrArgumentsTarget
      match expr.form with
      | .ident n _ => pure (bindingOf expr.span n)
      | _ => pure expr
  if !target.isTarget isPlain then stop target.span .invalidAssignTarget
  return target

/-- **What is done with an expression** before a mark of assignment. -/
def assignmentRest (g : Grammar) (start : Nat) (expr : Node) : Read Node := do
  match ← cur? with
  | some (.mark op) =>
    if assignMarks.contains op then
      let target ← assignmentTarget op expr
      bump
      let value ← g.assign
      nodeFrom start (.assign op target value)
    else return expr
  | _ => return expr

end Read

end EnvSchema.Script
