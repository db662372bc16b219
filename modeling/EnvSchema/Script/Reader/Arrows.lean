import EnvSchema.Script.Reader.Functions
import EnvSchema.Script.Reader.Operators

/-!
# Brackets and arrow functions

What stands in brackets may be an expression, or the parameters of an arrow function; which one,
only the token behind the brackets says. So both are read as expressions, and turned into patterns
if an arrow follows.

* `Read.bracketItems` — what stands in the brackets;
* `Read.bracketed` — the expression or arrow function that the brackets start;
* `Read.genericAsyncArrow?` — an asynchronous arrow function with type parameters.
-/

namespace EnvSchema.Script.Read

/-- Whether a node is already a pattern, and no expression. -/
def isPatternItem (n : Node) : Bool :=
  match n.form with
  | .binding .. | .arrayPattern .. | .objectPattern .. | .assignPattern .. | .restPattern ..
  | .invalid => true
  | _ => false

/-- An expression, or all the items of one. -/
def spreadable (g : Grammar) : Read Node := do
  let start ← curPos
  if ← eat "..." then
    let arg ← g.assignIn
    return .mk ⟨start, arg.hi⟩ (.spread arg)
  else g.assign

/-- An expression in brackets, where a question mark and a type may follow a name. -/
def typedItem (g : Grammar) (start : Nat) : Read Node := do
  let itemStart ← curPos
  if ← eat "..." then
    let arg ← within (fun c => { c with includeIn := true }) (binary g)
    return .mk ⟨itemStart, arg.hi⟩ (.spread arg)
  let expr ← binary g
  if ← seesToken Token.isAssign then assignmentRest g start expr else return expr

/-- The question mark behind an item in brackets: says whether the item may be left out, or goes on
with one of two expressions. -/
def questionItem (g : Grammar) (start : Nat) (item : Node) : Read (Node × Bool) := do
  if ← notM (hasTypes <&&> sees "?") then return (item, false)
  let isSpread := match item.form with
    | .spread _ => true
    | _ => false
  if ← seesNextAny [",", ":", ")", "="] then
    bump
    let _ ← ahead?
    if isSpread then report (← get).prevSpan .optionalRest
    match item.form with
    | .ident .. | .spread (.mk _ (.ident ..)) => return (item, true)
    | _ => stop item.span .optionalPattern
  else if !isSpread then
    expect "?"
    let yes ← within (fun c => { c with inConditional := true, expectsColon := true }) g.assign
    expect ":"
    let no ← within (fun c => { c with inConditional := true, expectsColon := false }) g.assign
    return (.mk ⟨start, no.hi⟩ (.conditional item yes no), false)
  else return (item, false)

/-- An item in brackets with a type or a question mark behind it, which is a pattern. -/
def patternItem (g : Grammar) (start : Nat) (item : Node) (optional : Bool) : Read Node := do
  let (inner, isSpread) := match item.form with
    | .spread arg => (arg, true)
    | _ => (item, false)
  let pattern ← patternOf .parameter inner
  let pattern := if optional then pattern.asOptional else pattern
  let pattern ← if isSpread then nodeFrom start (.restPattern pattern none) else pure pattern
  let pattern ← match pattern.form with
    | .binding .. | .arrayPattern .. | .objectPattern .. | .restPattern .. =>
      let type ← colonType? g
      let span ← if type.isSome then spanFrom start else pure pattern.span
      pure ((pattern.withSpan span).withType type)
    | _ => pure pattern
  if ← eat "=" then
    let right ← g.assign
    nodeFrom start (.assignPattern pattern right)
  else return pattern

/-- An arrow function whose one parameter is the item before the arrow. -/
def itemArrow (g : Grammar) (start : Nat) (isAsync : Bool) (items : List Node) :
    Read (List Node) := do
  let isName := match items.getLast?.map Node.form with
    | some (.ident ..) | some (.binding ..) => true
    | _ => false
  if !isName then return items
  let params ← parametersOf items none
  let body ← arrowBody g false (params.all Node.isPlainParam)
  return items ++ [← nodeFrom start (.arrow isAsync params body none none)]

/-- **What stands in brackets**, and the place of a comma behind the last item. -/
def bracketItems (g : Grammar) : Read (List Node × Option Span) :=
  within (fun c => { c with expectsColon := false }) do
    expect "("
    let result ← loop (([] : List Node), (none : Option Span)) fun (out, comma) => do
      if ← (seesEnd <||> sees ")") then return .inr (out, comma)
      let isAsync ← sees "async" <&&> (seesNextAny ["(", "function"] <||> seesNextIdent)
      let start ← curPos
      -- each item may be the parameters of an arrow function of its own
      modify fun r => { r with arrowStart := some start }
      let stray ← strayModifier
      let itemStart ← curPos
      let typedName ← hasTypes <&&> (seesIdent <||> (sees "..." <&&> seesNextIdent))
      let item ←
        if typedName then typedItem g start
        else within (fun c => { c with includeIn := true }) (spreadable g)
      let (item, optional) ← questionItem g start item
      let item ←
        if ← (pure optional <||> (hasTypes <&&> sees ":")) then
          patternItem g itemStart item optional
        else pure item
      if stray then report (← spanFrom start) .parameterProperty
      let out := out ++ [item]
      let out ← if ← eat "=>" then itemArrow g start isAsync out else pure out
      if ← sees ")" then return .inl (out, comma)
      expect ","
      if ← sees ")" then return .inl (out, some (← get).prevSpan)
      return .inl (out, comma)
    expect ")"
    return result

/-- An arrow function behind its parameters, in a place where a colon might belong to something
else. -/
def arrowBeforeColon? (g : Grammar) (start : Nat) (isAsync : Bool) (items : List Node)
    (comma : Option Span) : Read (Option Node) := do
  let expectsColon := (← context).expectsColon
  attempt do
    let type ← resultType g ":"
    expect "=>"
    let params ← parametersOf items comma
    let body ← arrowBody g isAsync (params.all Node.isPlainParam)
    -- the colon of the condition has to be left
    if ← (pure expectsColon <&&> notM (sees ":")) then unexpected "fail"
    return some (← nodeFrom start (.arrow isAsync params body none (some type)))

/-- An arrow function behind its parameters. -/
def arrowRest (g : Grammar) (start : Nat) (isAsync : Bool) (items : List Node)
    (comma : Option Span) (type : Option Node) : Read Node := do
  expect "=>"
  let params ← parametersOf items comma
  let body ← arrowBody g isAsync (params.all Node.isPlainParam)
  let arrow ← nodeFrom start (.arrow isAsync params body none type)
  let isBlock := match body.form with
    | .block _ => true
    | _ => false
  if ← (pure isBlock <&&> seesToken Token.isBinary) then
    report (← curSpan) .semicolonExpected
    let expr ← binaryRest g arrow
    if !(← atStatementEnd) then report (← curSpan) .semicolonExpected
    return expr
  return arrow

/-- Records the defaults of patterns in objects among expressions in brackets. -/
def checkBracketItems (items : List Node) : Read Unit :=
  items.forM fun item => do
    let inner := match item.form with
      | .spread arg => arg
      | _ => item
    if let .object props := inner.form then
      props.forM fun p => do
        if let .assignProperty .. := p.form then report p.span .assignProperty

/-- Expressions in brackets that are no parameters. -/
def parenthesized (start : Nat) (items : List Node) : Read Node := do
  items.forM fun item => do
    if let .spread arg := item.form then stop arg.span .spreadInParentheses
  match items with
  | [] => stop ⟨start, ← lastPos⟩ .emptyParentheses
  | [expr] => nodeFrom start (.paren expr)
  | first :: rest =>
    let last := rest.getLast?.getD first
    nodeFrom start (.paren (.mk (.cover first.span last.span) (.sequence items)))

/-- **The expression or arrow function that brackets start.** The word `async` may stand before
them. -/
def bracketed (g : Grammar) (canBeArrow : Bool) (asyncSpan : Option Span) : Read Node := do
  let start ← match asyncSpan with
    | some s => pure s.lo
    | none => curPos
  let isAsync := asyncSpan.isSome
  let (items, comma) ← within (fun c => { c with includeIn := true }) (bracketItems g)
  let c ← context
  -- the colon may start the type of a function, or end the first branch of a condition
  if ← (hasTypes <&&> pure c.inConditional <&&> sees ":") then
    if let some arrow ← arrowBeforeColon? g start isAsync items comma then return arrow
  let type ←
    if ← (pure (!c.expectsColon) <&&> hasTypes <&&> sees ":") then
      attempt do
        let type ← resultType g ":"
        if !(← sees "=>") then unexpected "fail"
        return some type
    else pure none
  if ← (pure (items.any isPatternItem || type.isSome) <||> sees "=>") then
    if ← lineBreakBefore then stop (← spanFrom start) .lineBreakBeforeArrow
    if !canBeArrow then stop (← spanFrom start) .arrowNotAllowed
    arrowRest g start isAsync items comma type
  else
    checkBracketItems items
    match asyncSpan with
    | some span =>
      let callee := Node.mk span (.ident "async" false)
      nodeFrom start (.call callee items none)
    | none => parenthesized start items

/-- An asynchronous arrow function with type parameters, behind its first word. -/
def genericAsyncArrow? (g : Grammar) (start : Nat) : Read (Option Node) := do
  if ← notM (sees "<" <||> seesToken Token.isTagStart) then return none
  let head ← attempt do
    let tps ← typeParams g false false
    expect "("
    let params ← parameters g
    expect ")"
    let type ← when? (← sees ":") (resultType g ":")
    expect "=>"
    let patterns := params.map fun p => match p.form with
      | .param pattern => pattern
      | _ => p
    return some (tps, patterns, type)
  match head with
  | none => return none
  | some (tps, params, type) =>
    within (fun c => { c with inAsync := true, inGenerator := false }) do
      let body ← arrowBody g true (params.all Node.isPlainParam)
      return some (← nodeFrom start (.arrow true params body (some tps) type))

end EnvSchema.Script.Read
