import EnvSchema.Script.Reader.Annotations

/-!
# Patterns

What may stand where a variable is bound or given a value: a name, or a pattern of names in the
shape of an array or an object.

* `Read.bindingPattern` — a pattern that binds names;
* `Read.parameters`, `Read.constructorParameters` — the parameters of a function;
* `Read.patternOf` — an expression that turns out to be a pattern.
-/

namespace EnvSchema.Script

namespace Node

/-- The same pattern, which may be left out. -/
def asOptional (n : Node) : Node :=
  match n.form with
  | .binding name _ type => .mk n.span (.binding name true type)
  | .arrayPattern elems _ type => .mk n.span (.arrayPattern elems true type)
  | .objectPattern props _ type => .mk n.span (.objectPattern props true type)
  | _ => n

/-- The same pattern with a type. -/
def withType (n : Node) (type : Option Node) : Node :=
  match n.form with
  | .binding name o _ => .mk n.span (.binding name o type)
  | .arrayPattern elems o _ => .mk n.span (.arrayPattern elems o type)
  | .objectPattern props o _ => .mk n.span (.objectPattern props o type)
  | .restPattern arg _ => .mk n.span (.restPattern arg type)
  | _ => n

/-- Whether a node is a pattern for all that is left. -/
def isRest (n : Node) : Bool :=
  match n.form with
  | .restPattern .. => true
  | .param p =>
    match p.form with
    | .restPattern .. => true
    | _ => false
  | _ => false

/-- Whether a value may be given to an expression. -/
def isSimpleTarget (strict : Bool) : Node → Bool
  | .mk _ (.ident name _) => !(strict && isReservedBinding name)
  | .mk _ (.paren e) | .mk _ (.nonNull e) | .mk _ (.typeAssertion e _) | .mk _ (.asType e _)
  | .mk _ (.instantiation e _) | .mk _ (.satisfies e _) => e.isSimpleTarget strict
  | .mk _ (.member (.mk _ (.optionalChain ..)) _) => false
  | .mk _ (.member (.mk s (.member o k)) _) => (Node.mk s (.member o k)).isSimpleTarget strict
  | .mk _ (.member ..) | .mk _ (.superMember ..) => true
  | _ => false

end Node

namespace Read

/-- A name or pattern with an optional default. -/
def bindingElement (g : Grammar) : Read Node := do
  let start ← curPos
  let left ← g.pattern false
  if ← eat "=" then
    let right ← g.assignIn
    if (← context).inDeclare then report (← spanFrom start) .parameterInit
    nodeFrom start (.assignPattern left right)
  else return left

/-- A question mark behind a pattern, where it may stand. -/
def ambientOptional : Read Bool := do
  if (← context).inDeclare then eat "?" else return false

/-- A pattern in the shape of an array. -/
def arrayPattern (g : Grammar) : Read Node := do
  let start ← curPos
  bump
  let elems ← loop (([] : List (Option Node)), (none : Option Span)) fun (out, rest) => do
    if ← (seesEnd <||> sees "]") then return .inr out
    if ← eat "," then return .inl (out ++ [none], rest)
    if let some span := rest then report span .restNotLast
    let elemStart ← curPos
    let isRest ← eat "..."
    let (elem, rest) ←
      if isRest then
        let arg ← g.pattern false
        let span ← spanFrom elemStart
        pure (Node.mk span (.restPattern arg none), some span)
      else pure (← bindingElement g, rest)
    if !(← sees "]") then
      expect ","
      if ← (pure isRest <&&> sees "]") then report (← get).prevSpan .commaAfterRest
    return .inl (out ++ [some elem], rest)
  expect "]"
  let optional ← ambientOptional
  nodeFrom start (.arrayPattern elems optional none)

/-- One part of a pattern in the shape of an object. -/
def objectPatternProp (g : Grammar) : Read Node := do
  let start ← curPos
  if ← eat "..." then
    let arg ← g.pattern false
    nodeFrom start (.restPattern arg none)
  else
    let key ← propertyKey g
    if ← eat ":" then
      let value ← bindingElement g
      nodeFrom start (.keyValuePattern key value)
    else
      if key.name?.isNone then unexpected "an identifier"
      let value ← when? (← eat "=") g.assignIn
      nodeFrom start (.shorthandPattern key value)

/-- Checks where the rest stands in a pattern in the shape of an object. -/
def checkObjectRest (props : List Node) (comma : Option Span) : Read Unit := do
  for p in props.dropLast do
    if p.isRest then report p.span .restNotLast
  match props.getLast? with
  | some (.mk _ (.restPattern (.mk _ (.binding ..)) _)) =>
    if let some c := comma then report c .commaAfterRest
  | some (.mk span (.restPattern ..)) => stop span .restNeedsIdent
  | _ => pure ()

/-- Reads the items between braces, with commas between them, and the place of a comma behind the
last one. -/
def bracedItems (item : Read Node) : Read (List Node × Option Span) := do
  bump
  loop (([] : List Node), (none : Option Span)) fun (out, comma) => do
    if ← eat "\x7d" then return .inr (out, comma)
    let out := out ++ [← item]
    if ← sees "\x7d" then return .inl (out, comma)
    expect ","
    if ← sees "\x7d" then return .inl (out, some (← get).prevSpan)
    return .inl (out, comma)

/-- A pattern in the shape of an object. -/
def objectPattern (g : Grammar) : Read Node :=
  within (fun c => { c with expectsColon := false }) do
    let start ← curPos
    let (props, comma) ← bracedItems (objectPatternProp g)
    let span ← spanFrom start
    checkObjectRest props comma
    let optional ← ambientOptional
    return .mk span (.objectPattern props optional none)

/-- **A pattern that binds names.** -/
def bindingPattern (g : Grammar) (noLet : Bool) : Read Node := do
  match ← cur with
  | .word _ => bindingIdent noLet
  | .mark "[" => arrayPattern g
  | .mark "\x7b" => objectPattern g
  | _ => unexpected "yield, an identifier, [ or \x7b"

/-- The question mark and the type behind the pattern of a parameter. -/
def parameterType (g : Grammar) (start : Nat) (pattern : Node) : Read (Node × Bool) := do
  let (pattern, optional) ←
    if ← eat "?" then
      match pattern.form with
      | .binding .. | .arrayPattern .. | .objectPattern .. => pure (pattern.asOptional, true)
      | _ =>
        if (← context).inDeclare then pure (pattern, false)
        else stop (← get).prevSpan .optionalPattern
    else pure (pattern, false)
  let type ← colonType? g
  match pattern.form with
  | .binding .. => return (pattern.withType type, optional)
  | .assignPattern .. =>
    if type.isSome then
      let span ← spanFrom start
      report span .annotationAfterInit
      return (pattern.withSpan span, optional)
    else return (pattern, optional)
  | _ =>
    let span ← if type.isSome then spanFrom start else pure pattern.span
    return ((pattern.withSpan span).withType type, optional)

/-- The pattern of a parameter. -/
def parameterPattern (g : Grammar) : Read Node := do
  let start ← curPos
  let stray ← strayModifier
  let patStart ← curPos
  let pattern ← bindingElement g
  let (pattern, optional) ←
    if ← hasTypes then parameterType g patStart pattern else pure (pattern, false)
  let pattern ←
    if ← eat "=" then
      if optional then report pattern.span .optionalWithInit
      let right ← g.assign
      if (← context).inDeclare then report (← spanFrom start) .parameterInit
      nodeFrom start (.assignPattern pattern right)
    else pure pattern
  if stray then report (← spanFrom start) .parameterProperty
  return pattern

/-- A parameter that takes all arguments left. -/
def restParameter (g : Grammar) (start : Nat) (mayHaveInit : Bool) : Read Node := do
  let arg ← g.pattern false
  let arg ←
    if ← (pure mayHaveInit <&&> eat "=") then
      let right ← g.assign
      report arg.span .restInit
      nodeFrom start (.assignPattern arg right)
    else pure arg
  let type ← if ← hasTypes then colonType? g else pure none
  let node ← nodeFrom start (.restPattern arg type)
  if ← (pure mayHaveInit <&&> hasTypes <&&> eat "?") then report (← get).prevSpan .optionalRest
  return node

/-- Reads parameters up to the closing bracket, which is not taken. -/
def parameterList (item : Nat → Read Node) : Read (List Node) :=
  loop (([] : List Node), (none : Option Span)) fun (out, rest) => do
    if ← (seesEnd <||> sees ")") then return .inr out
    if let some span := rest then report span .restParameterNotLast
    let start ← curPos
    let isRest ← sees "..."
    -- the place of the dots is kept, in case another parameter follows
    let dots := (← get).current.map (·.span)
    let param ← item start
    if !(← sees ")") then
      expect ","
      if ← (pure isRest <&&> sees ")") then report (← get).prevSpan .commaAfterRest
    return .inl (out ++ [param], if isRest then dots else rest)

/-- **The parameters of a function.** -/
def parameters (g : Grammar) : Read (List Node) :=
  parameterList fun start => do
    let pattern ← if ← eat "..." then restParameter g start true else parameterPattern g
    nodeFrom start (.param pattern)

/-- The modifier of access ahead, if there is one. -/
def access? : Read (Option String) := modifier? ["public", "protected", "private"] false

/-- A parameter of a constructor, which may declare a field as well. -/
def constructorParameter (g : Grammar) (start : Nat) : Read Node := do
  let access ← access?
  let isOverride := (← modifier? ["override"] false).isSome
  let isReadonly := (← modifier? ["readonly"] false).isSome
  let pattern ← parameterPattern g
  if access.isNone && !isOverride && !isReadonly then nodeFrom start (.param pattern)
  else
    match pattern.form with
    | .binding .. | .assignPattern .. => pure ()
    | _ => stop pattern.span .parameterPropertyPattern
    let modifiers : Modifiers :=
      { access := access, isOverride := isOverride, isReadonly := isReadonly }
    nodeFrom start (.paramProperty modifiers pattern)

/-- The parameters of a constructor. -/
def constructorParameters (g : Grammar) : Read (List Node) :=
  parameterList fun start => do
    if ← eat "..." then
      let pattern ← restParameter g start false
      nodeFrom start (.param pattern)
    else constructorParameter g start

/-- Checks that an expression may be given a value. -/
def checkTarget (expr : Node) (denyCall : Bool) : Read Unit := do
  let strict := (← context).strict
  if ← hasTypes then
    let reserved := (expr.name?.map isReservedBinding).getD false
    if reserved then recordStrict expr.span .evalOrArgumentsTarget
    if !reserved && !expr.isSimpleTarget strict && denied expr then
      report expr.span .targetNotAssignable
  else if !expr.isSimpleTarget strict then report expr.span .targetNotAssignable
where
  /-- Whether what is no target is reported here; literals are left to the reader of the target. -/
  denied : Node → Bool
    | .mk _ (.string ..) | .mk _ (.number _) | .mk _ (.bigint _) | .mk _ (.bool _) | .mk _ .null
    | .mk _ (.regexp ..) | .mk _ (.binary ..) => false
    | .mk _ (.call ..) => denyCall
    | .mk _ (.paren e) => denied e
    | _ => true

/-- What an expression is read as a pattern for. -/
inductive PatternUse where
  /-- The parameter of an arrow function. -/
  | parameter
  /-- A part of such a parameter. -/
  | parameterPart
  /-- What is given a value. -/
  | target
  /-- A part of what is given a value. -/
  | targetPart
  deriving Repr, DecidableEq

/-- The use of the parts of a pattern. -/
def PatternUse.part : PatternUse → PatternUse
  | parameter | parameterPart => parameterPart
  | target | targetPart => targetPart

/-- A name as a pattern. -/
def bindingOf (span : Span) (name : String) : Node := .mk span (.binding name false none)

/-- A phrase that is no pattern. -/
def noPattern (span : Span) : Read Node := do
  report span .notAPattern
  return .mk span .invalid

mutual

/-- **An expression that turns out to be a pattern.** -/
def patternOf (use : PatternUse) (expr : Node) : Read Node := do
  match expr with
  | .mk span form =>
    if use == .target then
      match form with
      | .object _ | .array _ | .invalid => pure ()
      | _ => checkTarget expr true
    match form with
    | .invalid => return expr
    | .ident name _ =>
      if use == .targetPart && !expr.isSimpleTarget (← context).strict then
        report span .notSimpleTarget
      return bindingOf span name
    | .object props => return .mk span (.objectPattern (← propsOf use span props) false none)
    | .array elems =>
      -- commas behind the last element give no parts, and no rest may stand before them
      let trailing := (elems.reverse.takeWhile Option.isNone).length
      return .mk span
        (.arrayPattern (← elemsOf use span (trailing == 0) (elems.length - trailing) elems) false
          none)
    | .assign "=" left right =>
      if use == .target then return expr
      -- the left side may have been turned into a pattern while it was read
      let left ← match left with
        | .mk s (.objectPattern a b c) => pure (Node.mk s (.objectPattern a b c))
        | .mk s (.arrayPattern a b c) => pure (Node.mk s (.arrayPattern a b c))
        | .mk s (.binding n _ _) => patternOfName use s n
        | left => patternOf use left
      return .mk span (.assignPattern left right)
    | form =>
      match use with
      | .target => return expr
      | .targetPart =>
        match form with
        | .member .. | .superMember .. | .call .. | .new .. | .string .. | .number _ | .bigint _
        | .bool _ | .null | .regexp .. | .functionExpr .. | .classExpr .. | .paren _ | .template ..
        | .asType .. =>
          if !expr.isSimpleTarget (← context).strict then report span .notSimpleTarget
          return expr
        | .yield .. =>
          report span .notAPattern
          if (← context).inGenerator then
            report span .yieldInParameters
            return .mk span .invalid
          else noPattern span
        | _ =>
          report span .notAPattern
          noPattern span
      | _ =>
        match form with
        | .yield .. =>
          if (← context).inGenerator then
            report span .yieldInParameters
            return .mk span .invalid
          else noPattern span
        | _ => noPattern span

/-- A name as a pattern. -/
def patternOfName (use : PatternUse) (span : Span) (name : String) : Read Node := do
  let expr := Node.mk span (.ident name false)
  if use == .targetPart && !expr.isSimpleTarget (← context).strict then
    report span .notSimpleTarget
  return bindingOf span name

/-- The parts of an object as those of a pattern. -/
def propsOf (use : PatternUse) (object : Span) : List Node → Read (List Node)
  | [] => return []
  | prop :: rest => do
    let head ← match prop with
      | .mk span (.shorthand (.mk s (.ident name _))) =>
        pure (Node.mk span (.shorthandPattern (.mk s (.ident name false)) none))
      | .mk span (.keyValue key value) =>
        pure (Node.mk span (.keyValuePattern key (← patternOf use.part value)))
      | .mk span (.assignProperty key value) =>
        pure (Node.mk span (.shorthandPattern key (some value)))
      | .mk span (.spread arg) =>
        if !rest.isEmpty then report span .restNotLast
        else if let some comma := (← get).trailingCommas.lookup object.lo then
          report comma .commaAfterRest
        let pattern ←
          if use.part == .parameterPart then
            match arg with
            | .mk s (.ident name _) => pure (bindingOf s name)
            | _ =>
              report span .restNeedsIdent
              pure (Node.mk span .invalid)
          else patternOf use.part arg
        if let .assignPattern .. := pattern.form then report span .restInit
        pure (Node.mk span (.restPattern pattern none))
      | other => stop other.span .notAPattern
    return head :: (← propsOf use object rest)

/-- The parts of an array as those of a pattern, of which there are `count`. The last one may take
all that is left, unless commas follow it. -/
def elemsOf (use : PatternUse) (array : Span) (lastMayBeRest : Bool) :
    Nat → List (Option Node) → Read (List (Option Node))
  | 0, _ | _, [] => return []
  | count + 1, none :: rest => return none :: (← elemsOf use array lastMayBeRest count rest)
  | count + 1, some (.mk span (.spread arg)) :: rest => do
    if count == 0 && lastMayBeRest then
      if let .assign .. := arg.form then report span .restInit
      if let some comma := (← get).trailingCommas.lookup array.lo then report comma .commaAfterRest
      let pattern ← patternOf use.part arg
      return [some (.mk arg.span (.restPattern pattern none))]
    else
      report arg.span .restNotLast
      elemsOf use array lastMayBeRest count rest
  | count + 1, some elem :: rest => do
    let head ← patternOf use.part elem
    return some head :: (← elemsOf use array lastMayBeRest count rest)

end

/-- Checks that a pattern binds no name that strict code may not bind. -/
def checkBindings : Nat → Node → Read Unit
  | 0, _ => pure ()
  | fuel + 1, n => do
    match n.form with
    | .binding name .. => if isReservedBinding name then recordStrict n.span .evalOrArguments
    | .arrayPattern elems .. => elems.forM fun e => e.forM (checkBindings fuel)
    | .objectPattern props .. => props.forM (checkBindings fuel)
    | .restPattern arg _ => checkBindings fuel arg
    | .assignPattern left _ => checkBindings fuel left
    | .keyValuePattern _ value => checkBindings fuel value
    | .shorthandPattern key _ =>
      if (key.name?.map isReservedBinding).getD false then recordStrict key.span .evalOrArguments
    | _ => pure ()

/-- What was read in brackets, as the parameters of an arrow function. An item is an expression, a
spread expression, or already a pattern. -/
def parametersOf (items : List Node) (comma : Option Span) : Read (List Node) := do
  -- only the last item may take all arguments left
  let early ← items.dropLast.filterMapM fun item => do
    match item.form with
    | .spread _ | .restPattern .. =>
      report item.span .restParameterNotLast
      return none
    | _ => return some (← one item)
  let last ← match items.getLast? with
    | none => pure []
    | some item =>
      match item.form with
      | .spread arg =>
        if let .assign .. := arg.form then report item.span .restInit
        if let some c := comma then report c .commaAfterRest
        let pattern ← patternOf .parameter arg
        pure [Node.mk arg.span (.restPattern pattern none)]
      | .restPattern .. =>
        if let some c := comma then report c .commaAfterRest
        pure [item]
      | _ => pure [← one item]
  let params := early ++ last
  if (← context).strict then params.forM (checkBindings ((← get).size + 1))
  return params
where
  /-- One item as a pattern. -/
  one (item : Node) : Read Node :=
    match item.form with
    | .binding .. | .arrayPattern .. | .objectPattern .. | .assignPattern .. => return item
    | _ => patternOf .parameter item

end Read

end EnvSchema.Script
