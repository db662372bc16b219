import EnvSchema.Script.Reader.Patterns

/-!
# Types

The types that annotations, type declarations and type arguments are made of.

* `Read.typeArgs`, `Read.typeParams` — between angle brackets;
* `Read.wholeType` — any type; `Read.prefixedType` — one without operators between operands;
* `Read.resultType` — what stands behind a parameter list: a type, or what the function finds
  out about one of its parameters;
* `Read.objectMembers` — the members of an interface or of an object type.
-/

namespace EnvSchema.Script.Read

variable {α : Type}

/-- Runs a step as if no bracket but the outermost were open. -/
def withoutModes (step : Read α) : Read α := do
  let saved := (← get).modes
  modify fun r => { r with modes := r.modes.getLast?.toList }
  let res ← outcome step
  modify fun r => { r with modes := saved }
  settle res

/-- Items with commas between them, up to a place that ends them. -/
def commaList (ends : Read Bool) (item : Read α) : Read (List α) :=
  loop ([] : List α) fun out => do
    if ← ends then return .inr out
    let out := out ++ [← item]
    if ← eat "," then return .inl out
    if ← ends then return .inr out
    expect ","
    return .inl out

/-- Takes a mark and reads a type behind it, if the mark is ahead. -/
def typeAfter? (g : Grammar) (m : String) : Read (Option Node) :=
  inType do when? (← eat m) g.type

/-- Takes a mark that has to be there and reads a type behind it. -/
def typeAfter (g : Grammar) (m : String) : Read Node :=
  inType do
    if !(← eat m) then
      let got := match ← cur? with
        | some t => "Some(" ++ t.shown ++ ")"
        | none => "None"
      stop (← curSpan) (.unexpected got m)
    g.type

/-- **Type arguments.** -/
def typeArgs (g : Grammar) : Read Node := do
  let start ← curPos
  let args ← inType do
    withoutModes do
      if ← sees "<<" then
        -- the first of two brackets is taken, the second one starts a type
        modify fun r => { r with current := r.current.map fun l =>
          { l with
            token := .mark "<", afterLineBreak := false, span := ⟨l.span.lo + 1, l.span.hi⟩ } }
      else expect "<"
      commaList (sees ">") g.type
  -- a slash behind the closing bracket divides
  modify fun r => { r with exprAllowed := false }
  expect ">"
  let span ← spanFrom start
  if args.isEmpty then report span .emptyTypeArguments
  return .mk span (.typeArgs args)

/-- Type arguments, within which angle brackets are never operators. -/
def plainTypeArgs (g : Grammar) : Read Node :=
  within (fun c => { c with anglesAreOperators := false }) (typeArgs g)

/-- The name of a type: names with points between them. -/
def entityName (anyWord : Bool) : Read Node := do
  let first ← name
  -- `void` names a type of its own, so nothing can be its member
  if first.name? == some "void" then
    let pos ← curPos
    report ⟨pos, ← lastPos⟩ .semicolonExpected
  loop first fun left => do
    if !(← eat ".") then return .inr left
    let dot ← curPos
    if ← notM (sees "#" <||> seesWord) then
      report (.point dot) .typeNameExpected
      return .inr left
    let right ← if anyWord then name else ident false false
    return .inl (.mk (.cover left.span right.span) (.qualifiedName left right))

/-- A type that is named, with its type arguments. -/
def typeReference (g : Grammar) : Read Node := do
  let start ← curPos
  let stray ← strayModifier
  let named ← entityName true
  let args ← when? (← (notM lineBreakBefore <&&> seesAny ["<", "<<"])) (plainTypeArgs g)
  if stray then report (← spanFrom start) .parameterProperty
  nodeFrom start (.typeReference named args)

/-- What a modifier before a type parameter means: whether it is `in`, `out` or `const`. -/
def typeParamModifiers (variance const : Bool) : Read (Bool × Bool × Bool) :=
  loop (false, false, false) fun (isIn, isOut, isConst) => do
    match ← modifier? ["public", "protected", "private", "readonly", "abstract", "const", "override",
        "in", "out"] false with
    | none => return .inr (isIn, isOut, isConst)
    | some "const" =>
      if !const then report (← get).prevSpan .constTypeParameter
      return .inl (isIn, isOut, true)
    | some "in" =>
      let span := (← get).prevSpan
      if !variance then report span (.varianceMisplaced "in")
      else if isIn then report span (.modifierSeen "in")
      else if isOut then report span (.modifierOrder "in" "out")
      return .inl (true, isOut, isConst)
    | some "out" =>
      let span := (← get).prevSpan
      if !variance then report span (.varianceMisplaced "out")
      else if isOut then report span (.modifierSeen "out")
      return .inl (isIn, true, isConst)
    | some other =>
      report (← get).prevSpan (.modifierOnTypeParameter other)
      return .inl (isIn, isOut, isConst)

/-- A type parameter. -/
def typeParam (g : Grammar) (variance const : Bool) : Read Node := do
  let start ← curPos
  let (isIn, isOut, isConst) ← typeParamModifiers variance const
  let named ← inType name
  let bound ← typeAfter? g "extends"
  let default ← typeAfter? g "="
  nodeFrom start (.typeParam isIn isOut isConst named bound default)

/-- **Type parameters.** -/
def typeParams (g : Grammar) (variance const : Bool) : Read Node :=
  inType do
    withoutModes do
      let start ← curPos
      if ← notM (sees "<" <||> seesToken Token.isTagStart) then unexpected "< (jsx tag start)"
      bump
      let params ← commaList (sees ">") (typeParam g variance const)
      expect ">"
      nodeFrom start (.typeParams params)

/-- Type parameters, if an angle bracket is ahead. -/
def typeParams? (g : Grammar) (variance const : Bool) : Read (Option Node) := do
  when? (← sees "<") (typeParams g variance const)

/-- A type behind a mark, or what a function finds out about a parameter. -/
def resultType (g : Grammar) (m : String) : Read Node :=
  inType do
    let start ← curPos
    if !(← eat m) then
      let got := match ← cur? with
        | some t => "Some(" ++ t.shown ++ ")"
        | none => "None"
      stop (← curSpan) (.expected m got)
    let predStart ← curPos
    let asserts ← sees "asserts" <&&> seesNextIdent
    if asserts then
      bump
      let _ ← ahead?
    -- `x is T`, which `asserts` may stand before
    let finds ← seesIdent <&&> seesNext "is" <&&> notM lineBreakBetween
    if !asserts && !finds then typeFrom g start
    else
      let variable_ ← name
      let type ←
        if finds then
          bump
          let pos ← curPos
          pure (some (← typeFrom g pos))
        else pure none
      let pred ← nodeFrom predStart (.typePredicate asserts variable_ type)
      nodeFrom start (.colonType pred)

/-- The parameters of a signature, with the bracket that ends them. -/
def signatureParameters (g : Grammar) : Read (List Node) := do
  let params ← parameters g
  expect ")"
  params.mapM fun p => do
    match p.form with
    | .param pattern =>
      match pattern.form with
      | .binding .. | .arrayPattern .. | .objectPattern .. | .restPattern .. => return pattern
      | _ =>
        unexpected <| "an identifier, [ for an array pattern, \x7b for an object patter or ... for " ++
          "a rest pattern"
    | _ => return p

/-- What follows the name of a signature: type parameters, parameters and a type. -/
def signature (g : Grammar) : Read (Option Node × List Node × Option Node) := do
  let tps ← typeParams? g false true
  expect "("
  let params ← signatureParameters g
  let type ← when? (← sees ":") (resultType g ":")
  return (tps, params, type)

/-- What ends a member of a type. -/
def memberEnd : Read Unit := do
  if !(← eat ",") then expectStatementEnd

/-- Whether the bracket ahead starts a signature of an index. -/
def startsIndexSignature : Read Bool := do
  bump
  if ← seesIdent then
    bump
    seesAny [":", ","]
  else return false

/-- A signature of an index, if one is ahead. -/
def indexSignature? (g : Grammar) (start : Nat) (isReadonly isStatic : Bool) :
    Read (Option Node) := do
  if ← notM (sees "[" <&&> lookAhead startsIndexSignature) then return none
  expect "["
  let idStart ← curPos
  let id ← name
  let annStart ← curPos
  if ← eat "," then report id.span .indexParameters else expect ":"
  let type ← typeFrom g annStart
  let param ← nodeFrom idStart (.binding (id.name?.getD "") false (some type))
  expect "]"
  let type ← colonType? g
  memberEnd
  return some (← nodeFrom start (.indexSignature isReadonly isStatic [param] type))

/-- The key of a member of a type, and whether it is an expression in brackets. -/
def signatureKey (g : Grammar) : Read (Bool × Node) := do
  if ← eat "[" then
    let key ← g.assign
    expect "]"
    return (true, key)
  else
    within (fun c => { c with inPropertyName := true }) do
      match ← cur with
      | .number _ | .string .. => return (false, ← g.memberOrNew false)
      | _ =>
        let key ← maybePrivateName
        if let .privateName _ := key.form then report key.span .privateInInterface
        return (false, key)

/-- A property or method of a type. -/
def propertySignature (g : Grammar) (start : Nat) (isReadonly : Bool) : Read Node := do
  let (computed, key) ← signatureKey g
  let optional ← eat "?"
  if ← seesAny ["(", "<"] then
    if isReadonly then stopHere .readonlyMethod
    let (tps, params, type) ← signature g
    memberEnd
    nodeFrom start (.methodSignature computed optional key params type tps)
  else
    let type ← colonType? g
    memberEnd
    nodeFrom start (.propertySignature isReadonly computed optional key type)

/-- A getter or setter of a type, if one is ahead. -/
def accessorSignature? (g : Grammar) (isReadonly : Bool) : Read (Option Node) :=
  attempt do
    let start ← curPos
    if isReadonly then stopHere .readonlyAccessor
    let isGetter ← eat "get"
    if !isGetter then expect "set"
    let (computed, key) ← signatureKey g
    expect "("
    if isGetter then
      expect ")"
      let type ← colonType? g
      memberEnd
      return some (← nodeFrom start (.getterSignature computed key type))
    else
      let params ← signatureParameters g
      match params with
      | [] => stopHere .setterParameterRequired
      | param :: _ =>
        memberEnd
        return some (← nodeFrom start (.setterSignature computed key param))

/-- A member of a type. -/
def typeMember (g : Grammar) : Read Node := do
  let start ← curPos
  let constructs ←
    if ← sees "new" then lookAhead do bump; seesAny ["(", "<"] else pure false
  if constructs then
    bump
    let (tps, params, type) ← signature g
    memberEnd
    nodeFrom start (.constructSignature params type tps)
  else if ← seesAny ["(", "<"] then
    let (tps, params, type) ← signature g
    memberEnd
    nodeFrom start (.callSignature params type tps)
  else
    let isReadonly := (← modifier? ["readonly"] false).isSome
    if let some member ← indexSignature? g start isReadonly false then return member
    if let some member ← accessorSignature? g isReadonly then return member
    propertySignature g start isReadonly

/-- **The members of an interface or of an object type.** -/
def objectMembers (g : Grammar) : Read (List Node) := do
  expect "\x7b"
  let members ← loop ([] : List Node) fun out => do
    if ← sees "\x7d" then return .inr out
    return .inl (out ++ [← typeMember g])
  expect "\x7d"
  return members

/-- Whether the brace ahead starts a mapped type. -/
def startsMappedType : Read Bool := do
  bump
  if ← (eat "+" <||> eat "-") then sees "readonly"
  else
    let _ ← eat "readonly"
    if !(← eat "[") then return false
    if !(← seesIdent) then return false
    bump
    sees "in"

/-- How a mapped type changes a modifier, which is the given word or mark. -/
def change? (m : String) : Read (Option Change) := do
  if ← seesAny ["+", "-"] then
    let plus ← sees "+"
    bump
    expect m
    return some (if plus then .plus else .minus)
  else if ← eat m then return some .given
  else return none

/-- A mapped type. -/
def mappedType (g : Grammar) : Read Node := do
  let start ← curPos
  expect "\x7b"
  let readonly ← change? "readonly"
  expect "["
  let paramStart ← curPos
  let named ← name
  let bound ← typeAfter g "in"
  let param ← nodeFrom paramStart (.typeParam false false false named (some bound) none)
  let nameType ← when? (← eat "as") g.type
  expect "]"
  let optional ← change? "?"
  let type ← typeAfter? g ":"
  expectStatementEnd
  expect "\x7d"
  nodeFrom start (.mappedType readonly param nameType optional type)

/-- The label of an element of a tuple, if there is one. -/
def tupleLabel? : Read (Option Node) :=
  attempt do
    let start ← curPos
    let isRest ← eat "..."
    let id ← name
    let optional ← eat "?"
    let label := Node.mk ⟨id.lo, ← lastPos⟩ (.binding (id.name?.getD "") optional none)
    expect ":"
    if isRest then return some (← nodeFrom start (.restPattern label none)) else return some label

/-- An element of a tuple. -/
def tupleElement (g : Grammar) : Read Node := do
  let start ← curPos
  let label ← tupleLabel?
  if ← eat "..." then
    let type ← g.type
    let type ← nodeFrom start (.restType type)
    nodeFrom start (.tupleElement label type)
  else
    let type ← g.type
    if ← eat "?" then
      let type ← nodeFrom start (.optionalType type)
      nodeFrom start (.tupleElement label type)
    else nodeFrom start (.tupleElement label type)

/-- Whether an element that has to be there follows one that may be left out. -/
def requiredAfterOptional (elems : List Node) : Bool :=
  let kind (n : Node) : Option Bool :=
    match n.form with
    | .tupleElement _ (.mk _ (.optionalType _)) => some true
    | .tupleElement _ (.mk _ (.restType _)) => none
    | _ => some false
  ((elems.filterMap kind).dropWhile (! ·)).any (! ·)

/-- A tuple. -/
def tupleType (g : Grammar) : Read Node := do
  let start ← curPos
  expect "["
  let elems ← commaList (sees "]") (tupleElement g)
  expect "]"
  if requiredAfterOptional elems then stop (← spanFrom start) .requiredAfterOptional
  nodeFrom start (.tupleType elems)

/-- Whether the bracket ahead starts the parameters of a function type. -/
def startsFunctionType (g : Grammar) : Read Bool := do
  bump
  if ← seesAny [")", "..."] then return true
  let _ ← strayModifier
  -- a name or a pattern, and behind it what follows only a parameter
  let skipped ←
    if ← seesWord then
      bump
      pure true
    else if ← seesAny ["\x7b", "["] then
      match ← outcome (g.pattern false) with
      | .ok _ => pure true
      | .error _ => pure false
    else pure false
  if !skipped then return false
  if ← seesAny [":", ",", "?", "="] then return true
  if ← eat ")" then sees "=>" else return false

/-- The type of a function or of a constructor. -/
def functionType (g : Grammar) (isFunction : Bool) : Read Node := do
  let start ← curPos
  let isAbstract ← if isFunction then pure false else eat "abstract"
  if !isFunction then expect "new"
  let tps ← typeParams? g false true
  expect "("
  let params ← signatureParameters g
  let type ← resultType g "=>"
  if isFunction then nodeFrom start (.functionType params tps type)
  else nodeFrom start (.constructorType isAbstract params tps type)

/-- A type that another script exports. -/
def importType (g : Grammar) : Read Node := do
  let start ← curPos
  bump
  expect "("
  let _ ← ahead?
  let span ← curSpan
  let source ← match ← cur with
    | .string value raw =>
      bump
      pure (Node.mk span (.string value raw))
    | _ =>
      bump
      report span .stringExpected
      pure (Node.mk span (.string "" "\"\""))
  let _ ← eat ","
  expect ")"
  let qualifier ← when? (← eat ".") (entityName false)
  let args ← when? (← sees "<") (plainTypeArgs g)
  nodeFrom start (.importType source qualifier args)

/-- The type of a variable. -/
def typeQuery (g : Grammar) : Read Node := do
  let start ← curPos
  expect "typeof"
  let named ← if ← sees "import" then importType g else entityName true
  let args ← when? (← (notM lineBreakBefore <&&> sees "<")) (plainTypeArgs g)
  nodeFrom start (.typeQuery named args)

/-- The word `this` as a type. -/
def thisType : Read Node := do
  expect "this"
  return .mk (← get).prevSpan .thisType

/-- What a function finds out about its `this`. -/
def thisPredicate (g : Grammar) (start : Nat) (asserts : Bool) (this : Node) : Read Node := do
  let type ←
    if ← eat "is" then
      let pos ← curPos
      pure (some (← typeFrom g pos))
    else pure none
  nodeFrom start (.typePredicate asserts this type)

/-- A template as a type. -/
def templateType (g : Grammar) : Read Node := do
  let start ← curPos
  bump
  let first ← templateText false
  let (types, pieces) ← loop (([] : List Node), [first]) fun (types, pieces) => do
    match pieces.getLast?.map Node.form with
    | some (.templatePiece _ _ false) =>
      expect "$\x7b"
      let type ← g.type
      expect "\x7d"
      let piece ← templateText false
      return .inl (types ++ [type], pieces ++ [piece])
    | _ => return .inr (types, pieces)
  expect "`"
  nodeFrom start (.templateType types pieces)

/-- A literal as a type. -/
def literalType (g : Grammar) : Read Node := do
  let start ← curPos
  let lit ← if ← sees "`" then templateType g else literal
  nodeFrom start (.literalType lit)

/-- A negative number as a type. -/
def negativeType : Read Node := do
  let start ← curPos
  bump
  match ← cur with
  | .number raw =>
    let span ← curSpan
    bump
    nodeFrom start (.literalType (.mk span (.number ("-" ++ raw))))
  | .bigint raw =>
    let span ← curSpan
    bump
    nodeFrom start (.literalType (.mk span (.bigint ("-" ++ raw))))
  | _ => unexpected "numeric literal or bigint literal"

/-- The words that name a type of the language. -/
def typeWords : List String :=
  ["void", "null", "any", "boolean", "bigint", "never", "number", "object", "string", "symbol",
   "unknown", "undefined", "intrinsic"]

/-- A type that starts with a word. -/
def wordType (g : Grammar) (w : String) : Read Node := do
  let start ← curPos
  if ← (pure (w == "asserts") <&&> seesNext "this") then
    bump
    thisPredicate g start true (← thisType)
  else
    -- before a dot such a word is the name of a namespace
    let isMember ← seesNext "."
    if typeWords.contains w && !isMember then
      bump
      nodeFrom start (.keywordType w)
    else typeReference g

/-- A type without brackets behind it. -/
def simpleType (g : Grammar) : Read Node := do
  let start ← curPos
  let wanted := "an identifier, void, yield, null, await, break, a string literal, a numeric " ++
      "literal, true, false, `, -, import, this, typeof, \x7b, [, ("
  let t ← cur
  match t with
  | .bigint _ | .string .. | .number _ => literalType g
  | .word "true" | .word "false" => literalType g
  | .word "import" => importType g
  | .word "typeof" => typeQuery g
  | .word "this" =>
    let this ← thisType
    if ← (notM lineBreakBefore <&&> sees "is") then thisPredicate g start false this
    else return this
  | .word w =>
    if t.isName || ["void", "yield", "null", "await", "break"].contains w then wordType g w
    else unexpected wanted
  | .mark "`" => literalType g
  | .mark "-" => negativeType
  | .mark "\x7b" =>
    if ← lookAhead startsMappedType then mappedType g
    else
      let members ← objectMembers g
      nodeFrom start (.typeLiteral members)
  | .mark "[" => tupleType g
  | .mark "(" =>
    expect "("
    let type ← g.type
    expect ")"
    nodeFrom start (.parenType type)
  | _ => unexpected wanted

/-- A type with the brackets of arrays and members behind it. -/
def arrayType (g : Grammar) : Read Node := do
  let first ← simpleType g
  loop first fun type => do
    -- a bracket on the next line starts something else
    if ← (lineBreakBefore <||> notM (eat "[")) then return .inr type
    if ← eat "]" then return .inl (← nodeFrom type.lo (.arrayType type))
    let index ← g.type
    expect "]"
    return .inl (← nodeFrom type.lo (.indexedAccess type index))

/-- A type that stands for a part of another one. -/
def inferType (bare : Read Node) : Read Node := do
  let start ← curPos
  expect "infer"
  let paramStart ← curPos
  let named ← name
  let bound ← attempt do
    expect "extends"
    let bound ← bare
    -- before a question mark `extends` starts a condition, and there is no bound
    if ← (pure (← context).noConditionalType <||> notM (sees "?")) then return some bound
    else return none
  let param ← nodeFrom paramStart (.typeParam false false false named bound none)
  nodeFrom start (.inferType param)

/-- Types with a mark between them, one of which may also stand before the first. -/
def joined (m : String) (make : List Node → Form Node) (item : Read Node) : Read Node := do
  let start ← curPos
  let _ ← eat m
  let first ← item
  if !(← sees m) then return first
  let types ← loop [first] fun out => do
    if ← eat m then return .inl (out ++ [← item]) else return .inr out
  nodeFrom start (make types)

/-- A type that is no conditional one. -/
def unconditionalType (g : Grammar) : Read Node := do
  let isFunction ←
    if ← sees "<" then pure true
    else if ← sees "(" then lookAhead (startsFunctionType g)
    else pure false
  if isFunction then functionType g true
  else if ← (sees "new" <||> (sees "abstract" <&&> seesNext "new")) then functionType g false
  else joined "|" .unionType (joined "&" .intersectionType g.operatorType)

/-- **A type without operators between operands.** -/
def prefixedType (g : Grammar) : Read Node := do
  let start ← curPos
  match ← cur? with
  | some (.word w) =>
    if w == "keyof" || w == "unique" || w == "readonly" then
      bump
      let type ← g.operatorType
      nodeFrom start (.typeOperator w type)
    else if w == "infer" then inferType (unconditionalType g)
    else arrayType g
  | _ => arrayType g

/-- **Any type.** -/
def wholeType (g : Grammar) : Read Node := do
  let start ← curPos
  let type ← unconditionalType g
  if (← lineBreakBefore) || (← context).noConditionalType then return type
  if !(← eat "extends") then return type
  -- a question mark behind the bound belongs to the condition around it
  let bound ← within (fun c => { c with noConditionalType := true }) (unconditionalType g)
  expect "?"
  let branch := within (fun c => { c with noConditionalType := false }) g.type
  let yes ← branch
  expect ":"
  let no ← branch
  nodeFrom start (.conditionalType type bound yes no)

end EnvSchema.Script.Read
