import EnvSchema.Script.Reader.Arrows

/-!
# Members, calls and templates

* `Read.arguments` — the arguments of a call;
* `Read.template` — a template between its marks;
* `Read.subscriptsOf` — the members, calls and templates behind an expression.
-/

namespace EnvSchema.Script

namespace Node

/-- The expression without the marks behind it which say that it is there. -/
def withoutNonNull : Node → Node
  | .mk _ (.nonNull e) => e.withoutNonNull
  | n => n

/-- Whether an expression is a chain that may end early. -/
def isChain (n : Node) : Bool :=
  match n.withoutNonNull.form with
  | .optionalChain .. => true
  | _ => false

/-- Whether a node is the word `super` or `import`, which is no expression of its own. -/
def isSuper (n : Node) : Bool :=
  match n.form with
  | .super => true
  | _ => false

/-- Whether a node is the word `import`. -/
def isImportWord (n : Node) : Bool :=
  match n.form with
  | .importWord _ => true
  | _ => false

end Node

namespace Read

/-- **The arguments of a call.** -/
def arguments (g : Grammar) (isImport : Bool) : Read (List Node) :=
  within (fun c => { c with expectsColon := false }) do
    let start ← curPos
    expect "("
    let args ← loop ([] : List Node) fun out => do
      if ← (seesEnd <||> sees ")") then return .inr out
      if !out.isEmpty then
        expect ","
        if ← sees ")" then
          if isImport then stop (← spanFrom start) .importTrailingComma
          return .inr out
      return .inl (out ++ [← within (fun c => { c with includeIn := true }) (spreadable g)])
    expect ")"
    return args

/-- **A template between its marks.** -/
def template (g : Grammar) (tagged : Bool) : Read Node := do
  let start ← curPos
  bump
  let first ← templateText tagged
  let (exprs, pieces) ← loop (([] : List Node), [first]) fun (exprs, pieces) => do
    match pieces.getLast?.map Node.form with
    | some (.templatePiece _ _ false) =>
      expect "$\x7b"
      let expr ← g.exprIn
      expect "\x7d"
      let piece ← templateText tagged
      return .inl (exprs ++ [expr], pieces ++ [piece])
    | _ => return .inr (exprs, pieces)
  expect "`"
  nodeFrom start (.template exprs pieces)

/-- A template that a function takes. -/
def taggedTemplate (g : Grammar) (tag : Node) (args : Option Node) : Read Node := do
  let tpl ← template g true
  let span ← spanFrom tag.lo
  if let .optionalChain .. := tag.form then report span .templateInOptionalChain
  return .mk span (.taggedTemplate tag args tpl)

/-- Whether an expression may start here, by the token ahead. -/
def seesExprStart : Read Bool := do
  if ← seesIdent then return true
  if ← (sees "import" <&&> seesNextAny ["(", "<", "."]) then return true
  seesToken fun t => match t with
    | .word w =>
      ["this", "super", "null", "true", "false", "function", "class", "new", "delete", "typeof",
       "void", "await", "yield"].contains w
    | .mark m =>
      ["`", "(", "[", "\x7b", "/", "/=", "+", "-", "~", "!", "++", "--", "<", "#"].contains m
    | .number _ | .bigint _ | .string .. | .regexp .. => true
    | _ => false

/-- Type arguments behind an expression that is not called. -/
def instantiationArgs? (g : Grammar) : Read (Option Node) :=
  attempt do
    let args ← typeArgs g
    -- what may go on with an operator has not been type arguments
    if ← seesAny ["<", ">", "+", "-", "(", "`"] then return none
    if ← (lineBreakBefore <||> seesToken Token.isBinary <||> notM seesExprStart) then
      return some args
    return none

/-- A call of an expression. -/
def callOf (start : Nat) (callee : Node) (args : List Node) (typeArgs : Option Node)
    (optional : Bool) : Read Node := do
  let span ← spanFrom start
  let call := Node.mk span (.call callee args typeArgs)
  if optional || callee.isChain then return .mk span (.optionalChain optional call)
  return call

/-- A member of an expression, or of `super`. -/
def memberOf (start : Nat) (object key : Node) (optional noCall : Bool) : Read Node := do
  let span ← spanFrom object.lo
  if object.isSuper then
    if !(← context).allowSuper then stop object.span .superInvalid
    if optional then
      stop object.span (if noCall then .superCallInvalid else .superInvalid)
    if let .privateName _ := key.form then stop (← curSpan) .superCallInvalid
    return .mk span (.superMember object key)
  let member := Node.mk span (.member object key)
  if optional || object.isChain then
    return .mk (← spanFrom start) (.optionalChain optional member)
  return member

/-- What an angle bracket behind an expression may start, where there are types. -/
def angleSubscript? (g : Grammar) (start : Nat) (obj : Node) (noCall : Bool) :
    Read (Option (Node × Bool)) :=
  within (fun c => { c with anglesAreOperators := false }) <|
    attempt do
      -- `async <T>(…) =>` starts like a name with type arguments
      if !noCall && obj.name? == some "async" && (← get).arrowStart == some obj.lo then
        if let some arrow ← genericAsyncArrow? g start then return some (arrow, true)
      let args ← typeArgs g
      if ← (pure (!noCall) <&&> sees "(") then
        let params ← arguments g false
        let span ← spanFrom start
        let call := Node.mk span (.call obj params (some args))
        match obj.form with
        | .optionalChain .. => return some (.mk span (.optionalChain false call), true)
        | _ => return some (call, true)
      else if ← sees "`" then return some (← taggedTemplate g obj (some args), true)
      else if ← seesAny ["=", "as", "satisfies"] then
        return some (← nodeFrom start (.instantiation obj args), false)
      else if noCall then unexpected "`"
      else unexpected "( or `"

/-- One member, call or template behind an expression; says whether there may be another one. -/
def subscript (g : Grammar) (start : Nat) (obj : Node) (noCall noComputed : Bool) :
    Read (Node × Bool) := do
  let _ ← ahead?
  let typed ← hasTypes
  let isExpr := !obj.isSuper && !obj.isImportWord
  if typed then
    if ← (notM lineBreakBefore <&&> sees "!") then
      modify fun r => { r with exprAllowed := false }
      bump
      if obj.isSuper then stopHere (.nonNullNotAllowed "super")
      if obj.isImportWord then stopHere (.nonNullNotAllowed "import")
      return (← nodeFrom start (.nonNull obj), true)
    if ← (pure isExpr <&&> sees "<") then
      if let some result ← angleSubscript? g start obj noCall then return result
  let args ← if ← (pure typed <&&> sees "<") then instantiationArgs? g else pure none
  let instantiate (n : Node) : Read Node :=
    match args with
    | some a => nodeFrom start (.instantiation n a)
    | none => return n
  let optional ← sees "?" <&&> seesNext "."
  if optional then bump
  let computed ←
    if noComputed then pure false
    else if ← (pure optional <&&> sees "." <&&> seesNext "[") then
      bump
      eat "["
    else eat "["
  if computed then
    let bracket := (← get).prevSpan.lo
    let key ← g.exprIn
    expect "]"
    let key ← nodeFrom bracket (.computed key)
    return (← instantiate (← memberOf start obj key optional noCall), true)
  -- a call that is made only if there is something to call
  let dotted ← pure optional <&&> sees "." <&&> (seesNext "(" <||> (pure typed <&&> seesNext "<"))
  let called ←
    if dotted then eat "."
    else if noCall then pure false
    else sees "("
  if called then
    let typeParams ← if ← (pure typed <&&> sees "<") then some <$> typeArgs g else pure none
    let params ← arguments g obj.isImportWord
    if !isExpr && optional then stopHere .superOptional
    return (← callOf start obj params typeParams optional, true)
  if ← eat "." then
    let key ← maybePrivateName
    if obj.isImportWord then unexpected "meta"
    return (← instantiate (← memberOf start obj key optional noCall), true)
  if isExpr then
    let expr ← instantiate obj
    if ← sees "`" then
      let tpl ← within (fun c => { c with expectsColon := false }) (taggedTemplate g expr none)
      return (tpl, true)
    return (expr, false)
  else if obj.isSuper then stopHere (if noCall then .superCallInvalid else .superInvalid)
  else stopHere .importInvalid

/-- **The members, calls and templates behind an expression.** The flags rule out calls, and keys in
brackets. -/
def subscriptsOf (g : Grammar) (obj : Node) (noCall noComputed : Bool) : Read Node :=
  loop obj fun node => do
    let (node, more) ← subscript g obj.lo node noCall noComputed
    if more then return .inl node else return .inr node

/-- The word `import` as a part of an expression, which has been read. -/
def importExpr (g : Grammar) (start : Nat) (noCall : Bool) : Read Node := do
  if ← eat "." then
    match ← nameText with
    | "meta" =>
      let node ← nodeFrom start (.metaProperty false)
      g.subscripts node noCall false
    | "defer" =>
      let node ← nodeFrom start (.importWord "defer")
      g.subscripts node noCall false
    | "source" =>
      let node ← nodeFrom start (.importWord "source")
      g.subscripts node noCall false
    | _ => unexpected "meta"
  else
    let node ← nodeFrom start (.importWord "")
    g.subscripts node noCall false

end Read

end EnvSchema.Script
