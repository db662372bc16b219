import EnvSchema.Script.Reader.Functions

/-!
# Classes

* `Read.classMember` — a member of a class;
* `Read.classRest` — a class from its keyword on: its name and its body.
-/

namespace EnvSchema.Script.Read

/-- The names of types that no class or interface may have. -/
def reservedTypeNames : List String :=
  ["string", "null", "number", "object", "any", "unknown", "boolean", "bigint", "symbol", "void",
   "never", "intrinsic"]

/-- Whether a key names the constructor. -/
def isConstructorKey (key : Node) : Bool :=
  match key.form with
  | .ident n _ => n == "constructor"
  | .string v _ => v == "constructor"
  | _ => false

/-- Whether a key is a private name. -/
def isPrivateKey (key : Node) : Bool :=
  match key.form with
  | .privateName _ => true
  | _ => false

/-- What has been read before the key of a member. -/
structure MemberHead where
  /-- Where the member starts. -/
  start : Nat
  modifiers : Modifiers := {}
  /-- The word `static`, if it was read first. -/
  staticSpan : Option Span := none
  /-- The word `declare`. -/
  declareSpan : Option Span := none
  /-- The word `readonly`. -/
  readonlySpan : Option Span := none
  /-- The last of the other modifiers. -/
  modifierSpan : Option Span := none
  /-- The field is one with a getter and a setter. -/
  isAccessor : Bool := false
  deriving Repr

/-- Whether the member is a method, by what follows its key. -/
def seesMethod : Read Bool := do
  if ← sees "(" then return true
  if ← hasTypes then return ← sees "<" <||> seesToken Token.isTagStart
  return false

/-- Whether the member is a field, by what follows its key. The flag says that the end of a line may
end the member. -/
def seesField (byLine : Bool) : Read Bool := do
  if ← (hasTypes <&&> seesAny ["!", ":"]) then return true
  if ← seesAny ["=", "\x7d"] then return true
  if byLine then atStatementEnd else sees ";"

/-- A question mark behind the key of a member. -/
def memberOptional : Read Bool := do
  if ← hasTypes then eat "?" else return false

/-- A field of a class, whose key has been read. -/
def field (g : Grammar) (head : MemberHead) (key : Node) : Read Node := do
  let m := head.modifiers
  if isConstructorKey key then stop key.span .constructorField
  if isPrivateKey key then
    if m.isDeclare then report key.span (.privateModifier "declare")
    if m.isAbstract then report key.span (.privateModifier "abstract")
  let definite ← if (← hasTypes) && !m.isOptional then eat "!" else pure false
  let type ← colonType? g
  within (fun c => { c with includeIn := true, inClassField := true, strict := true }) do
    let value ← when? (← eat "=") g.assign
    if !(← eatStatementEnd) then
      report (← curSpan) .semicolonExpected
    let span ← spanFrom head.start
    if isPrivateKey key then
      if m.access.isSome then report span .privateAccessibility
    else if m.isAbstract && value.isSome && !head.isAccessor then report span .abstractInit
    return .mk span (.field head.isAccessor { m with isDefinite := definite } key value type)

/-- A method of a class, whose key has been read. -/
def method (g : Grammar) (head : MemberHead) (key : Node) (kind : MethodKind)
    (params : Read (List Node)) (isAsync isGenerator : Bool) : Read Node := do
  let m := { head.modifiers with isStatic := head.staticSpan.isSome }
  let f ← within (fun c => { c with inClassField := false })
    (functionRest g head.start params isAsync isGenerator)
  let span ← spanFrom head.start
  if isPrivateKey key then
    if m.access.isSome then report span .privateAccessibility
  else if m.isAbstract then
    if let .function _ _ _ (some _) _ _ := f.form then report span .abstractBody
  return .mk span (.method kind m key f)

/-- Type parameters of a constructor, which has none. -/
def constructorTypeParams (g : Grammar) : Read Unit := do
  if ← (hasTypes <&&> sees "<") then
    let start ← curPos
    if ← seesNext ">" then
      bump
      let second ← curPos
      bump
      report (← spanFrom start) .emptyTypeParameters
      report (← spanFrom second) .typeParametersOnConstructor
    else
      let tps ← typeParams g false true
      if let .typeParams params := tps.form then
        params.forM fun p => report p.span .typeParametersOnConstructor

/-- The constructor of a class, whose key has been read. -/
def classConstructor (g : Grammar) (head : MemberHead) (key : Node) : Read Node := do
  let m := head.modifiers
  if (← hasTypes) && m.isOverride then
    report (← spanFrom head.start) (.modifierOnConstructor "override")
  constructorTypeParams g
  expect "("
  let params ← constructorParameters g
  expect ")"
  if ← (hasTypes <&&> sees ":") then
    let type ← colonType g
    if let .colonType t := type.form then report t.span .typeAnnotationOnConstructor
  let body ← functionBody? g false false (params.all Node.isPlainParam)
  if body.isNone then
    params.forM fun p => do
      if let .paramProperty .. := p.form then report p.span .parameterProperty
    if ← hasTypes then
      (params.filterMap Node.paramDefault?).forM fun s => report s .parameterInit
  if let some span := head.staticSpan then report span (.modifierOnConstructor "static")
  if let some span := head.modifierSpan then
    if m.isAbstract then report span .abstractMisplaced
  nodeFrom head.start (.constructor m key params body)

/-- A block that runs once with the class. -/
def staticBlock (g : Grammar) (start : Nat) : Read Node := do
  let body ← within (fun c => { c with inStaticBlock := true, inClassField := true }) (g.block false)
  nodeFrom start (.staticBlock body)

/-- The modifiers before a member, but for those of access. -/
def memberModifiers (head : MemberHead) : Read MemberHead :=
  loop head fun head => do
    match ← modifier? ["abstract", "readonly", "override", "static"] true with
    | none => return .inr head
    | some w =>
      let span := (← get).prevSpan
      let head := { head with modifierSpan := some span }
      let m := head.modifiers
      match w with
      | "abstract" =>
        if m.isAbstract then report span (.modifierSeen "abstract")
        else if m.isOverride then report span (.modifierOrder "abstract" "override")
        else if m.isReadonly then report span (.modifierOrder "abstract" "readonly")
        return .inl { head with modifiers := { m with isAbstract := true } }
      | "override" =>
        if m.isOverride then report span (.modifierSeen "override")
        else if m.isReadonly then report span (.modifierOrder "override" "readonly")
        else if m.isDeclare then report span (.modifierPair "override" "declare")
        else if !(← context).hasSuperclass then report span .overrideWithoutSuper
        return .inl { head with modifiers := { m with isOverride := true } }
      | "readonly" =>
        if m.isReadonly then
          report span (.modifierSeen "readonly")
          return .inl head
        else
          return .inl { head with
            modifiers := { m with isReadonly := true }, readonlySpan := some span }
      | _ =>
        if m.isOverride then report span (.modifierOrder "static" "override")
        return .inl { head with modifiers := { m with isStatic := true } }

/-- A member whose key is `get` or `set` before another key. -/
def accessor (g : Grammar) (head : MemberHead) (word : Node) : Read Node := do
  let span := word.span
  let key ← memberKey g
  if head.modifiers.isReadonly then report span .readonlyAccessor
  if isConstructorKey key then report span .constructorAccessor
  if word.name? == some "get" then
    method g head key .getter (getterParameters g span) false false
  else method g head key .setter (setterParameters g span) false false

/-- A member whose key is `async` before another key. -/
def asyncMethod (g : Grammar) (head : MemberHead) : Read Node := do
  let head ←
    if (← modifier? ["override"] false).isSome then
      report (← get).prevSpan (.modifierOrder "override" "async")
      pure { head with modifiers := { head.modifiers with isOverride := true } }
    else pure head
  let isGenerator ← eat "*"
  let key ← memberKey g
  if isConstructorKey key then report key.span .asyncConstructor
  if head.modifiers.isReadonly then report (← spanFrom head.start) .readonlyMethod
  let optional ← pure head.modifiers.isOptional <||> memberOptional
  let head := { head with modifiers := { head.modifiers with isOptional := optional } }
  method g head key .method (parameters g) true isGenerator

/-- A member from its key on. -/
def keyedMember (g : Grammar) (head : MemberHead) : Read Node := do
  let key ← match head.readonlySpan with
    -- behind `readonly`, these marks say that the word itself is the key
    | some span =>
      if ← seesAny ["!", ":"] then pure (Node.mk span (.ident "readonly" false)) else memberKey g
    | none => memberKey g
  let optional ← memberOptional
  let head := { head with modifiers := { head.modifiers with isOptional := optional } }
  if ← seesMethod then
    if let some span := head.declareSpan then report span .declareOnMember
    if head.modifiers.isReadonly then stop (← spanFrom head.start) .readonlyMethod
    if isConstructorKey key then classConstructor g head key
    else method g head key .method (parameters g) false false
  else
    -- on the next line a star starts another member, so `get` and `set` are fields before it
    let generatorNext ← lineBreakBefore <&&> sees "*"
    let isAccessor ← pure (key.name? == some "get" || key.name? == some "set") <&&>
      notM (seesField false) <&&> pure (!generatorNext)
    if ← (pure (!isAccessor) <&&> seesField true) then field g head key
    else if ← (pure (key.name? == some "async") <&&> notM lineBreakBefore) then asyncMethod g head
    else if isAccessor then accessor g head key
    else unexpected "* for generator, private key, identifier or async"

/-- A member after its modifiers of access, `declare` and a first `static`. -/
def plainMember (g : Grammar) (head : MemberHead) : Read Node := do
  let head ← memberModifiers head
  let m := head.modifiers
  if ← (pure m.isStatic <&&> sees "\x7b") then
    if let some span := head.declareSpan then report span .modifierMisplaced
    if m.access.isSome then report (← curSpan) .modifierMisplaced
    return ← staticBlock g head.start
  if ← (sees "static" <&&> seesNext "\x7b") then
    if let some span := head.modifierSpan then report span .modifierMisplaced
    if let some span := head.staticSpan then report span .modifierMisplaced
    bump
    return ← staticBlock g head.start
  if (← hasTypes) && !m.isAbstract && !m.isOverride && m.access.isNone then
    if let some node ← indexSignature? g head.start m.isReadonly m.isStatic then return node
  if ← eat "*" then
    let key ← memberKey g
    if m.isReadonly then report (← spanFrom head.start) .readonlyMethod
    if isConstructorKey key then report (← spanFrom head.start) .generatorConstructor
    return ← method g head key .method (parameters g) false true
  keyedMember g head

/-- A member whose key is a word that might have been a modifier. -/
def wordMember? (g : Grammar) (head : MemberHead) (w : String) (span : Span) (byLine : Bool) :
    Read (Option Node) := do
  let key := Node.mk span (.ident w false)
  let optional (head : MemberHead) : Read MemberHead := do
    let o ← memberOptional
    return { head with modifiers := { head.modifiers with isOptional := o } }
  if ← seesMethod then
    let head ← optional { head with staticSpan := none }
    return some (← method g head key .method (parameters g) false false)
  else if ← (seesField byLine <||> (hasTypes <&&> sees "?")) then
    let head ← optional head
    return some (← field g head key)
  else return none

/-- **A member of a class.** -/
def classMember (g : Grammar) : Read Node := do
  let start ← curPos
  -- each of the words that may stand first is the key if nothing follows it that could be one
  let typed ← hasTypes
  let first ← if typed then eat "declare" else pure false
  let firstSpan := (← get).prevSpan
  let access ← access?
  let second ← if typed && !first then eat "declare" else pure false
  let secondSpan := (← get).prevSpan
  let head : MemberHead := { start := start, modifiers := { access := access } }
  let declareSpan := if first && access.isNone then some firstSpan
    else if first || second then some secondSpan else none
  if let some span := declareSpan then
    if let some node ← wordMember? g head "declare" span true then return node
  let head := { head with
    declareSpan := declareSpan, modifiers := { access := access, isDeclare := declareSpan.isSome } }
  let staticStart ← curPos
  let isStatic ← eat "static"
  let staticSpan : Span := ⟨staticStart, ← lastPos⟩
  if isStatic then
    if let some node ← wordMember? g head "static" staticSpan false then return node
  let head := if isStatic then
      { head with staticSpan := some staticSpan, modifiers := { head.modifiers with isStatic := true } }
    else head
  let accessorSpan := (← ahead?).map (·.span)
  let isAccessor ← if typed then eat "accessor" else pure false
  if isAccessor then
    let span := accessorSpan.getD .none
    if let some node ← wordMember? g head "accessor" span false then return node
  plainMember g { head with isAccessor := isAccessor }

/-- The members of a class up to its closing brace. -/
def classMembers (g : Grammar) : Read (List Node) :=
  loop (([] : List Node), false) fun (out, constructed) => do
    if ← (seesEnd <||> sees "\x7d") then return .inr out
    if ← sees ";" then
      bump
      return .inl (out ++ [.mk (← get).prevSpan .emptyMember], constructed)
    let member ← within (fun c => { c with allowSuper := true }) (classMember g)
    match member.form with
    | .constructor _ _ _ (some _) =>
      if !(← context).inDeclare then
        -- only constructors with a body count
        if constructed then report member.span .duplicateConstructor
        return .inl (out ++ [member], true)
      else return .inl (out ++ [member], constructed)
    | _ => return .inl (out ++ [member], constructed)

/-- What a class extends, with its type arguments. -/
def superclass (g : Grammar) : Read (Node × Option Node) := do
  let expr ← g.leftHand
  match expr.form with
  | .instantiation inner args => return (inner, some args)
  | _ =>
    if ← (hasTypes <&&> sees "<") then return (expr, some (← typeArgs g)) else return (expr, none)

/-- One of the types that an interface extends or a class implements. -/
def heritage (g : Grammar) : Read Node := do
  let start ← curPos
  let id ← name
  let expr ← g.subscripts id true true
  match expr.form with
  | .ident .. | .member .. => pure ()
  | .instantiation .. => pure ()
  | _ => report (← spanFrom start) .heritageName
  match expr.form with
  | .instantiation inner args => return .mk expr.span (.withTypeArgs inner (some args))
  | _ =>
    let args ← when? (← sees "<") (typeArgs g)
    nodeFrom start (.withTypeArgs expr args)

/-- The types that an interface extends or a class implements. -/
def heritages (g : Grammar) : Read (List Node) :=
  commaList (seesAny ["\x7b", "implements", "extends"]) (heritage g)

/-- **A class from its keyword on**: its name and its body. -/
def classRest (g : Grammar) (start : Nat) (needsName isAbstract : Bool) :
    Read (Option Node × Node) :=
  within (fun c => { c with strict := true }) do
    expect "class"
    let named ← if needsName then some <$> bindingIdent true else bindingIdent? true
    let typed ← hasTypes
    if let some n := named then
      if typed && reservedTypeNames.contains (n.name?.getD "") then report n.span .invalidClassName
    let tps ← if typed then typeParams? g true true else pure none
    let (parent, parentArgs) ←
      if ← eat "extends" then
        let (p, args) ← superclass g
        if ← (pure typed <&&> eat ",") then
          (← heritages g).forM fun h => report h.span .severalSuperclasses
        pure (some p, args)
      else pure (none, none)
    -- what is there a second time is reported and read on
    if ← eat "extends" then
      report (← get).prevSpan .extendsSeen
      let _ ← superclass g
    let implemented ← if ← (pure typed <&&> eat "implements") then heritages g else pure []
    if ← (pure typed <&&> eat "implements") then
      report (← get).prevSpan .implementsSeen
      let _ ← heritages g
    let (parent, parentArgs) ←
      if ← (pure typed <&&> eat "extends") then
        report (← get).prevSpan .implementsSeen
        let (p, args) ← superclass g
        pure (if parent.isSome then (parent, parentArgs) else (some p, args))
      else pure (parent, parentArgs)
    expect "\x7b"
    let members ← within (fun c =>
      { c with hasSuperclass := parent.isSome, inClass := true }) (classMembers g)
    if ← seesEnd then report (← curSpan) (.expected "\x7d" "<eof>") else expect "\x7d"
    if !isAbstract then
      members.forM fun m => do
        match m.form with
        | .method _ mods key _ | .field false mods key .. =>
          if mods.isAbstract && !isPrivateKey key then report m.span .abstractOutside
        | _ => pure ()
    return (named,
      ← nodeFrom start (.classBody isAbstract members parent tps parentArgs implemented))

/-- A class as an expression. -/
def classExpr (g : Grammar) : Read Node := do
  let start ← curPos
  let (named, body) ← classRest g start false false
  nodeFrom start (.classExpr named body)

/-- A class as a declaration that started at a place. -/
def classDecl (g : Grammar) (start : Nat) (isAbstract : Bool) : Read Node := do
  let (named, body) ← classRest g start true isAbstract
  nodeFrom start (.classDecl false (named.getD default) body)

end EnvSchema.Script.Read
