import EnvSchema.Script.Reader.Types

/-!
# Elements

* `Node.tagName` — the name of an element as a diagnostic shows it;
* `Read.element` — an element with its children, from the bracket of its tag on.
-/

namespace EnvSchema.Script

/-- **The name of an element** as it is written. -/
def Node.tagName : Node → String
  | .mk _ (.ident n _) => n
  | .mk _ (.elementNamespaced (.mk _ (.ident s _)) (.mk _ (.ident n _))) => s ++ ":" ++ n
  | .mk _ (.elementMember o (.mk _ (.ident n _))) => o.tagName ++ "." ++ n
  | _ => ""

namespace Read

/-- A name within a tag. -/
def tagIdent : Read Node := do
  match ← cur with
  | .elementName n =>
    bump
    return .mk (← get).prevSpan (.ident n false)
  | _ => if (← context).forcedElement then identRef else unexpected "jsx identifier"

/-- A name within a tag, perhaps with a namespace before it. -/
def namespacedName : Read Node := do
  let start ← curPos
  let first ← tagIdent
  if !(← eat ":") then return first
  let second ← tagIdent
  return .mk ⟨start, second.hi⟩ (.elementNamespaced first second)

/-- The name of an element. -/
def elementTagName : Read Node := do
  let start ← curPos
  let first ← namespacedName
  loop first fun node => do
    if !(← eat ".") then return .inr node
    let key ← tagIdent
    return .inl (← nodeFrom start (.elementMember node key))

/-- An expression between braces, or nothing. -/
def container (g : Grammar) : Read Node := do
  let start ← curPos
  bump
  let expr ←
    if ← sees "\x7d" then
      let pos ← curPos
      pure (Node.mk (.point pos) .emptyExpr)
    else g.expr
  expect "\x7d"
  nodeFrom start (.container expr)

/-- The value of an attribute. -/
def attributeValue (g : Grammar) : Read Node := do
  let start ← curPos
  match ← cur with
  | .mark "\x7b" =>
    let node ← container g
    if let .container (.mk _ .emptyExpr) := node.form then stop (← spanFrom start) .emptyAttribute
    return node
  | .string .. => literal
  | .tagStart => g.element
  | _ => stop (← curSpan) .elementValue

/-- An attribute, or an object of attributes. -/
def attribute_ (g : Grammar) : Read Node := do
  let start ← curPos
  if ← eat "\x7b" then
    let dots ← curPos
    expect "..."
    let expr ← g.assign
    expect "\x7d"
    return .mk ⟨dots, expr.hi⟩ (.spread expr)
  let named ← namespacedName
  let value ←
    if ← eat "=" then
      let value ← within (fun c => { c with inConditional := false, expectsColon := false })
        (attributeValue g)
      pure (some value)
    else pure none
  nodeFrom start (.elementAttribute named value)

/-- Takes the bracket that ends a tag. -/
def eatTagEnd : Read Bool := do
  if ← seesToken (fun t => match t with | .tagEnd => true | _ => false) then
    bump
    return true
  else return false

/-- The tag that opens an element; no name for a fragment. -/
def openingTag (g : Grammar) (start : Nat) : Read (Option Node) := do
  if ← eatTagEnd then return none
  let named ← within (fun c => { c with anglesAreOperators := false }) elementTagName
  let args ←
    if ← (hasTypes <&&> sees "<") then attempt (some <$> typeArgs g) else pure none
  let attrs ← loop ([] : List Node) fun out => do
    match ← cur? with
    | none => return .inr out
    | some (.mark "/") | some .tagEnd => return .inr out
    | some _ => return .inl (out ++ [← attribute_ g])
  let selfClosing ← eat "/"
  let ended ← eatTagEnd <||> (pure (← context).forcedElement <&&> eat ">")
  if !ended then unexpected "> (jsx closing tag)"
  return some (← nodeFrom start (.elementOpening named attrs selfClosing args))

/-- The tag that closes an element, whose slash has been read; no name for a fragment. -/
def closingTag (start : Nat) : Read (Span × Option Node) := do
  if ← eatTagEnd then return (← spanFrom start, none)
  let named ← elementTagName
  if !(← eatTagEnd) then
    let got ← shownCur
    stop (← curSpan) (.expected "> (jsx tag end)" got)
  let node ← nodeFrom start (.elementClosing named)
  return (node.span, some node)

/-- What stands between the tags of an element, up to the tag that closes it. -/
def children (g : Grammar) : Read (List Node × Span × Option Node) :=
  loop ([] : List Node) fun out => do
    match ← cur with
    | .tagStart =>
      let start ← curPos
      if ← seesNext "/" then
        bump
        bump
        let (span, closing) ← closingTag start
        return .inr (out, span, closing)
      return .inl (out ++ [← g.element])
    | .elementText value raw =>
      bump
      return .inl (out ++ [.mk (← get).prevSpan (.elementText value raw)])
    | .mark "\x7b" =>
      if ← seesNext "..." then
        let start ← curPos
        expect "\x7b"
        expect "..."
        let expr ← g.expr
        expect "\x7d"
        return .inl (out ++ [← nodeFrom start (.spreadChild expr)])
      return .inl (out ++ [← container g])
    | _ => unexpected "< (jsx tag start), jsx text or \x7b"

/-- **An element with its children.** -/
def element (g : Grammar) : Read Node := do
  let start ← curPos
  let forced := !(← seesToken Token.isTagStart)
  bump
  within (fun c => { c with forcedElement := forced, anglesAreOperators := false }) do
    match ← openingTag g start with
    | none =>
      let (kids, span, closing) ← children g
      if closing.isSome then stop span .closingFragment
      nodeFrom start (.fragment kids)
    | some opening =>
      match opening.form with
      | .elementOpening _ _ true _ => nodeFrom start (.element opening [] none)
      | .elementOpening named .. =>
        let (kids, span, closing) ← children g
        let same := match closing.map Node.form with
          | some (.elementClosing n) => n.tagName == named.tagName
          | _ => false
        if !same then stop span (.closingTag named.tagName)
        nodeFrom start (.element opening kids closing)
      | _ => return opening

end Read

end EnvSchema.Script
