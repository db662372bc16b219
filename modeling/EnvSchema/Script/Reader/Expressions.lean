import EnvSchema.Script.Reader.Classes
import EnvSchema.Script.Reader.Elements
import EnvSchema.Script.Reader.Objects
import EnvSchema.Script.Reader.Subscripts

/-!
# Expressions

* `Read.primary` — what an expression starts with;
* `Read.memberOrNewOf`, `Read.leftHandOf`, `Read.unaryOf` — with members, calls, and one operand;
* `Read.assignment`, `Read.sequence` — one whole expression, and several with commas between them.
-/

namespace EnvSchema.Script.Read

/-- An array between its brackets. -/
def array (g : Grammar) : Read Node := do
  let start ← curPos
  bump
  let elems ← loop ([] : List (Option Node)) fun out => do
    if ← (seesEnd <||> sees "]") then return .inr out
    if ← eat "," then return .inl (out ++ [none])
    let elem ← within (fun c => { c with includeIn := true }) (spreadable g)
    if !(← sees "]") then
      expect ","
      -- this comma matters only if the array turns out to be a pattern
      if ← sees "]" then
        modify fun r => { r with trailingCommas := (start, r.prevSpan) :: r.trailingCommas }
    return .inl (out ++ [some elem])
  expect "]"
  nodeFrom start (.array elems)

/-- A regular expression, whose slash is ahead. -/
def regexp : Read Node := do
  let start ← curPos
  bump
  -- the slash has been cut off as a mark: the text is read again from its place
  modify fun r => { r with regexpAt := some start }
  match ← cur? with
  | some (.regexp body flags) =>
    modify fun r => { r with regexpAt := none }
    bump
    let span ← spanFrom start
    let known := ['d', 'g', 'i', 'm', 's', 'u', 'v', 'y']
    let flagList := flags.toList
    if flagList.any fun c => !known.contains c then report span .unknownRegexpFlags
    if let some c := known.find? fun c => 1 < flagList.count c then
      report span (.duplicateRegexpFlag c)
    return .mk span (.regexp body flags)
  | _ => stop (← curSpan) .expressionExpected

/-- A name, or an arrow function whose one parameter it is. -/
def nameOrArrow (g : Grammar) (start : Nat) (canBeArrow : Bool) : Read Node := do
  let id ← identRef
  let arrow (isAsync : Bool) (param : Node) : Read Node := do
    let body ← arrowBody g isAsync param.isPlainParam
    nodeFrom start (.arrow isAsync [param] body none none)
  if ← (pure (canBeArrow && id.name? == some "async") <&&> notM lineBreakBefore <&&> seesIdent) then
    let c ← context
    -- `for (async of …` is no arrow function
    if ← (pure c.inForHead <&&> sees "of" <&&> notM (seesNext "=>")) then
      if !c.inForAwaitHead then report (← get).prevSpan .forOfAsync
      return id
    let param ← bindingIdent false
    -- `async as T` is the variable, read as of a type
    if ← (hasTypes <&&> pure (param.name? == some "as") <&&> notM (sees "=>")) then
      let type ← inType g.type
      return ← nodeFrom start (.asType id type)
    expect "=>"
    arrow true param
  else if ← (pure canBeArrow <&&> notM lineBreakBefore <&&> eat "=>") then
    if (id.name?.map isReservedBinding).getD false && (← context).strict then
      recordStrict id.span .evalOrArguments
    arrow false (bindingOf id.span (id.name?.getD ""))
  else return id

/-- The word `async` before what makes it more than a name. -/
def asyncPrimary? (g : Grammar) (canBeArrow : Bool) : Read (Option Node) := do
  if ← (seesNext "function" <&&> notM lineBreakBetween) then
    let start ← curPos
    bump
    return some (← functionExpr g (some start))
  if ← (pure canBeArrow <&&> hasTypes <&&> seesNext "<") then
    let arrow ← attempt do
      let start ← curPos
      bump
      genericAsyncArrow? g start
    if arrow.isSome then return arrow
  if ← (pure canBeArrow <&&> seesNext "(" <&&> notM lineBreakBetween) then
    bump
    return some (← bracketed g canBeArrow (some (← get).prevSpan))
  return none

/-- **What an expression starts with.** -/
def primary (g : Grammar) : Read Node := do
  let start ← curPos
  -- only what stands at the start of its expression may be the parameters of an arrow function
  let canBeArrow := (← get).arrowStart == some start
  let t ← cur?
  match t with
  | some (.word "this") =>
    bump
    nodeFrom start .this
  | some (.mark "[") => array g
  | some (.mark "\x7b") => object g
  | some (.word "function") => functionExpr g none
  | some (.word "null") | some (.word "true") | some (.word "false") | some (.number _)
  | some (.bigint _) | some (.string ..) => literal
  | some (.mark "/") | some (.mark "/=") => regexp
  | some (.mark "`") => template g false
  | some (.mark "(") => bracketed g canBeArrow none
  | some (.word "class") => classExpr g
  | _ =>
    if ← sees "async" then
      if let some node ← asyncPrimary? g canBeArrow then return node
    if ← (sees "let" <||> seesIdent) then nameOrArrow g start canBeArrow
    else if ← eat "#" then
      let n ← nameText
      nodeFrom start (.privateName n)
    else
      let _ ← ahead?
      stop (← curSpan) .expressionExpected

/-- A chain that may end early cannot be constructed. -/
def checkConstructed (callee : Node) : Read Unit := do
  match callee.form with
  | .optionalChain .. => stop callee.span .newAfterOptionalChain
  | .member object _ =>
    if let .optionalChain .. := object.form then stop object.span .newAfterOptionalChain
  | _ => pure ()

/-- What stands behind the word `new`. -/
def newRest (g : Grammar) (start : Nat) (isNew : Bool) : Read Node := do
  if ← eat "." then
    if ← eat "target" then
      let node ← nodeFrom start (.metaProperty true)
      let c ← context
      if !c.inFunctionScope && !c.inParameters && !c.inClass then
        report node.span .newTargetOutside
      return ← g.subscripts node true false
    unexpected "target"
  let callee ← g.memberOrNew isNew
  if ← isArrowHere callee then return callee
  if isNew then checkConstructed callee
  let args ←
    if ← (hasTypes <&&> seesAny ["<", "<<"]) then
      attempt do
        let args ← plainTypeArgs g
        if !(← sees "(") then expect "("
        return some args
    else pure none
  if ← (pure (!isNew) <||> sees "(") then
    let params ← arguments g false
    let node ← nodeFrom start (.new callee (some params) args)
    g.subscripts node true false
  else nodeFrom start (.new callee none args)

/-- **An expression with members**, or one that `new` stands before. -/
def memberOrNewOf (g : Grammar) (isNew : Bool) : Read Node :=
  within (fun c => { c with anglesAreOperators := true }) do
    let start ← curPos
    if ← eat "new" then newRest g start isNew
    else if ← eat "super" then
      let node ← nodeFrom start .super
      g.subscripts node true false
    else if ← eat "import" then importExpr g start true
    else
      let obj ← primary g
      if ← isArrowHere obj then return obj
      let args ← if ← (hasTypes <&&> sees "<") then instantiationArgs? g else pure none
      let obj ← match args with
        | some a => nodeFrom start (.instantiation obj a)
        | none => pure obj
      g.subscripts obj true false

/-- **An expression with members and calls.** -/
def leftHandOf (g : Grammar) : Read Node := do
  let start ← curPos
  if ← hasJsx then
    match ← cur with
    | .elementText value raw =>
      bump
      return ← nodeFrom start (.elementText value raw)
    | .tagStart => return ← g.element
    | _ => pure ()
    if ← (sees "<" <&&> notM (seesNext "!")) then return ← g.element
  if ← eat "super" then
    let node ← nodeFrom start .super
    return ← g.subscripts node false false
  if ← eat "import" then return ← importExpr g start false
  let callee ← g.memberOrNew true
  if ← isArrowHere callee then return callee
  let args ←
    if ← (hasTypes <&&> seesAny ["<", "<<"]) then
      attempt do
        let args ← typeArgs g
        -- without a call the bracket is an operator, and reading goes back to it
        if ← sees "(" then return some args else return none
    else pure none
  match callee.form with
  | .new inner none _ =>
    if args.isSome then expect "("
    if args.isSome then return .mk callee.span (.new inner none args)
    return callee
  | _ =>
    if ← sees "(" then
      let params ← arguments g false
      let call ← callOf start callee params args false
      g.subscripts call false false
    else
      if args.isSome then expect "("
      return callee

/-- A wait for a value. -/
def awaitExpr (g : Grammar) : Read Node := do
  let start ← curPos
  bump
  let span ← spanFrom start
  if ← sees "*" then stopHere .awaitStar
  let c ← context
  -- with nothing to wait for the word is a name
  if ← (pure (!c.inAsync) <&&> (seesAny [")", "]", ","] <||> atStatementEnd)) then
    if c.isModule then report span .asyncIdent
    return .mk span (.ident "await" false)
  if c.inFunction && !c.inAsync then report (← curSpan) .awaitInFunction
  if c.inParameters && !c.inFunction then report span .awaitInParameters
  let arg ← g.unary
  nodeFrom start (.await arg)

/-- Records what cannot be deleted. -/
def checkDeleted (arg : Node) : Read Unit := do
  if let .ident .. := arg.form then recordStrict arg.span .deleteIdent
  if ← hasTypes then
    let inner := unwrap arg
    match inner.form with
    | .member .. | .optionalChain _ (.mk _ (.member ..)) => pure ()
    | _ => report inner.span .deleteOperand
where
  /-- The expression without brackets around it. -/
  unwrap : Node → Node
    | .mk _ (.paren e) => unwrap e
    | n => n

/-- An operator before its operand. Where the operand is missing, reading goes on behind the
operator. -/
def unaryOperator (g : Grammar) (start : Nat) (op : String) : Read Node := do
  bump
  let argStart := (← curPos) - 1
  let arg ← match ← outcome g.unary with
    | .ok n => pure n
    | .error d =>
      report d.span d.fault
      pure (Node.mk (.point argStart) .invalid)
  if op == "delete" then checkDeleted arg
  return .mk ⟨start, arg.hi⟩ (.unary op arg)

/-- **An expression with one operand at most.** -/
def unaryOf (g : Grammar) : Read Node := do
  let start ← curPos
  if ← (notM hasJsx <&&> hasTypes <&&> eat "<") then
    if ← eat "const" then
      expect ">"
      let expr ← g.unary
      return ← nodeFrom start (.constAssertion expr)
    let type ← inType g.type
    expect ">"
    let expr ← g.unary
    return ← nodeFrom start (.typeAssertion expr type)
  match ← cur? with
  | some (.mark "++") | some (.mark "--") =>
    let op := if ← sees "++" then "++" else "--"
    bump
    let arg ← g.unary
    checkTarget arg false
    return .mk ⟨start, arg.hi⟩ (.update op true arg)
  | some (.word "delete") => unaryOperator g start "delete"
  | some (.word "void") => unaryOperator g start "void"
  | some (.word "typeof") => unaryOperator g start "typeof"
  | some (.mark "+") => unaryOperator g start "+"
  | some (.mark "-") => unaryOperator g start "-"
  | some (.mark "~") => unaryOperator g start "~"
  | some (.mark "!") => unaryOperator g start "!"
  | some (.word "await") => awaitExpr g
  | _ =>
    let expr ← g.leftHand
    if ← isArrowHere expr then return expr
    if ← lineBreakBefore then return expr
    if ← seesAny ["++", "--"] then
      checkTarget expr false
      let op := if ← sees "++" then "++" else "--"
      bump
      nodeFrom expr.lo (.update op false expr)
    else return expr

/-- A value that a generator gives. -/
def yieldExpr (g : Grammar) : Read Node := do
  let start ← curPos
  bump
  let c ← context
  if c.inParameters && !c.inFunction then stop (← get).prevSpan .yieldInParameters
  let starts ← seesToken fun t => t.startsExpr || t.isMark "*" || t.isMark "/" || t.isMark "/="
  if (← atStatementEnd) || !starts then nodeFrom start (.yield false none)
  else
    let isDelegate ← eat "*"
    let arg ← g.assign
    nodeFrom start (.yield isDelegate (some arg))

/-- An expression up to a comma, without type parameters before it. -/
def assignmentBase (g : Grammar) : Read Node := do
  if ← (pure (← context).inGenerator <&&> sees "yield") then return ← yieldExpr g
  let t ← cur
  let start ← curPos
  -- the token says whether parameters of an arrow function may start here
  let mayBeArrow := t.isName || t.isMark "(" || t.isWord "yield"
  modify fun r => { r with arrowStart := if mayBeArrow then some start else none }
  let expr ← conditional g
  if ← isArrowHere expr then return expr
  match expr.form with
  | .conditional .. | .binary .. | .unary .. | .update .. => return expr
  | _ => assignmentRest g start expr

/-- Leaves the tag that a bracket seemed to open. -/
def leaveTag : Read Unit :=
  modify fun r => { r with modes := r.modes.tail.tail }

/-- **An expression up to a comma.** With types, an angle bracket may start the type parameters of
an arrow function. -/
def assignment (g : Grammar) : Read Node := do
  if ← (hasTypes <&&> hasJsx <&&> seesToken Token.isTagStart) then
    -- an element is tried first, then type parameters
    if let some node ← attempt (some <$> assignmentBase g) then return node
    leaveTag
  let starts ← hasTypes <&&> (sees "<" <||> seesToken Token.isTagStart) <&&>
    seesNextToken fun t => t.isAnyWord || t.isElementName
  if starts then
    let arrow ← within (fun c => { c with expectsColon := false }) <|
      attempt do
        if ← seesToken Token.isTagStart then
          if (← get).modes.head? == some .openingTag then leaveTag
        let tps ← typeParams g false true
        let node ← assignmentBase g
        match node.form with
        | .arrow isAsync params body _ type =>
          let span : Span := ⟨tps.lo, node.hi⟩
          return some (Node.mk span (.arrow isAsync params body (some tps) type))
        | _ => unexpected "("
    if let some node := arrow then return node
  assignmentBase g

/-- **Expressions with commas between them.** -/
def sequence (g : Grammar) : Read Node := do
  let start ← curPos
  let first ← g.assign
  if !(← sees ",") then return first
  let exprs ← loop [first] fun out => do
    if ← eat "," then return .inl (out ++ [← g.assign]) else return .inr out
  nodeFrom start (.sequence exprs)

end EnvSchema.Script.Read
