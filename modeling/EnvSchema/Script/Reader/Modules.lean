import EnvSchema.Script.Reader.Statements

/-!
# Imports and exports

* `Read.importStatement`, `Read.exportStatement` — what a module takes from others and gives to
  them;
* `Read.moduleItemOf` — a statement, an import or an export.
-/

namespace EnvSchema.Script.Read

/-- The words that stand for no variable. -/
def neverVariables : List String :=
  ["break", "case", "catch", "class", "const", "continue", "debugger", "default", "delete", "do",
   "else", "enum", "export", "extends", "false", "finally", "for", "function", "if", "import", "in",
   "instanceof", "new", "null", "package", "return", "super", "switch", "this", "throw", "true",
   "try", "typeof", "var", "void", "while", "with"]

/-- A name that an import binds. -/
def importedBinding : Read Node :=
  within (fun c => { c with inAsync := false, inGenerator := false }) (bindingIdent false)

/-- Another script that is defined elsewhere, or a name in it. -/
def importTarget : Read Node := do
  if ← (sees "require" <&&> seesNext "(") then
    let start ← curPos
    bump
    expect "("
    match ← cur with
    | .string .. => pure ()
    | _ => unexpected "a string literal"
    let source ← literal
    expect ")"
    nodeFrom start (.externalModule source)
  else entityName false

/-- A name for a script or for a name in one, behind that name. -/
def importEquals (start : Nat) (id : Node) (isExport typeOnly : Bool) : Read Node := do
  expect "="
  let target ← importTarget
  expectStatementEnd
  nodeFrom start (.importEquals isExport typeOnly id target)

/-- The text that names another script. -/
def sourceText : Read Node := do
  match ← cur with
  | .string .. => literal
  | _ => unexpected "a string literal"

/-- What the words `type as` in a list of names turn out to be: whether the name is a type, the
name, and the other name it is given. -/
structure TypeName where
  typeOnly : Bool
  name : Node
  other : Option Node
  /-- Whether the list goes on with the next name. -/
  complete : Bool

/-- The names behind the word `type` in a list of imports or exports. -/
def typeNames (typeWord : Node) (inTypeList : Bool) (fault : Fault) (other : Read Node) :
    Read TypeName := do
  let first ← name
  let noteType : Read Unit := do if inTypeList then report typeWord.span fault
  if first.name? != some "as" then
    noteType
    return ⟨true, first, none, false⟩
  if !(← seesWord) then
    noteType
    return ⟨true, first, none, true⟩
  -- `type as` may name a type, or a value called `type`
  let second ← other
  if second.name? == some "as" then
    if ← seesWord then
      let third ← other
      noteType
      return ⟨true, first, some third, true⟩
    return ⟨false, typeWord, some second, true⟩
  return ⟨false, typeWord, some second, true⟩

/-- One name of a list of imports. -/
def importSpecifier (typeOnly : Bool) : Read Node := do
  let start ← curPos
  let orig ← exportedName
  match orig.form with
  | .string value _ =>
    if ← eat "as" then
      let bound ← bindingIdent false
      return .mk ⟨start, bound.hi⟩ (.importNamed false bound (some orig))
    else stop orig.span (.stringBinding value)
  | _ =>
    let named ←
      if ← (hasTypes <&&> pure (orig.name? == some "type") <&&> seesWord) then
        typeNames orig typeOnly .typeOnImportName (bindingIdent false)
      else pure ⟨false, orig, none, false⟩
    if named.complete then
      match named.other with
      | some bound => nodeFrom start (.importNamed named.typeOnly bound (some named.name))
      | none => nodeFrom start (.importNamed named.typeOnly named.name none)
    else if ← eat "as" then
      let bound ← bindingIdent false
      return .mk ⟨start, bound.hi⟩ (.importNamed named.typeOnly bound (some named.name))
    else nodeFrom start (.importNamed named.typeOnly named.name none)

/-- What an import binds by default: the binding, whether it is a type, and the phase. Words that
stand before a list instead give no binding. -/
def defaultImport : Read (Option Node × Bool × String) := do
  if !(← seesIdent) then return (none, false, "")
  let first ← importedBinding
  let (bound, typeOnly) ←
    if (← hasTypes) && first.name? == some "type" then
      if ← seesAny ["*", "\x7b"] then return (none, true, "")
      else if ← seesIdent then
        -- `import type from` binds the name `type`, if no second `from` follows
        if ← (notM (sees "from") <||> seesNext "from") then pure (← importedBinding, true)
        else if ← seesNext "=" then
          let id ← name
          pure (.mk id.span (.binding (id.name?.getD "") false none), true)
        else pure (first, false)
      else pure (first, false)
    else pure (first, false)
  if ← (hasTypes <&&> sees "=") then return (some bound, typeOnly, "=")
  let word := bound.name?.getD ""
  if word == "source" || word == "defer" then
    if ← seesAny ["*", "\x7b"] then return (none, typeOnly, word)
    if ← (seesIdent <&&> (notM (sees "from") <||> seesNext "from")) then
      let bound ← importedBinding
      if !(← sees "from") then expect ","
      return (some bound, typeOnly, word)
  if !(← sees "from") then expect ","
  return (some bound, typeOnly, "")

/-- The names between the braces of a list. -/
def nameList (item : Read Node) : Read (List Node) := do
  let names ← loop ([] : List Node) fun out => do
    if ← (seesEnd <||> sees "\x7d") then return .inr out
    let out := out ++ [← item]
    if ← sees "\x7d" then return .inr out
    expect ","
    return .inl out
  expect "\x7d"
  return names

/-- The names between braces that an import binds, if a brace is ahead. -/
def namedImports (typeOnly : Bool) (phase : String) : Read (List Node) := do
  if ← (pure (phase == "") <&&> eat "\x7b") then nameList (importSpecifier typeOnly) else return []

/-- **An import.** -/
def importStatement (g : Grammar) : Read Node := do
  let start ← curPos
  if ← seesNextAny [".", "("] then
    let expr ← g.expr
    let _ ← eatStatementEnd
    return ← nodeFrom start (.exprStatement expr)
  -- from here on the script is a module
  modify fun r => { r with context := { r.context with isModule := true, strict := true } }
  expect "import"
  if let some (.string ..) ← cur? then
    let source ← literal
    expectStatementEnd
    return ← nodeFrom start (.importDecl false "" [] source)
  let (bound, typeOnly, phase) ← defaultImport
  match bound, phase with
  | some id, "=" => importEquals start (.mk id.span (.ident (id.name?.getD "") false)) false typeOnly
  | _, _ =>
    let first := bound.map fun b => Node.mk b.span (.importDefault b)
    let pos ← curPos
    let rest ←
      if ← (pure (phase != "source") <&&> eat "*") then
        expect "as"
        let b ← importedBinding
        pure [← nodeFrom pos (.importNamespace b)]
      else namedImports typeOnly phase
    expect "from"
    let source ← sourceText
    expectStatementEnd
    nodeFrom start (.importDecl typeOnly phase (first.toList ++ rest) source)

/-- One name of a list of exports. -/
def exportSpecifier (typeOnly : Bool) : Read Node := do
  let start ← curPos
  let orig ← exportedName
  let named ←
    if ← (hasTypes <&&> pure (orig.name? == some "type") <&&> seesWord) then
      typeNames orig typeOnly .typeOnExportName name
    else pure ⟨false, orig, none, false⟩
  if named.complete then nodeFrom start (.exportName named.typeOnly named.name named.other)
  else
    let other ← when? (← eat "as") exportedName
    nodeFrom start (.exportName named.typeOnly named.name other)

/-- The script that is exported from, with the end of the statement. -/
def fromClause : Read Node := do
  expect "from"
  let source ← sourceText
  expectStatementEnd
  return source

/-- Checks names that are exported from the script itself. -/
def checkOwnExports (names : List Node) : Read Unit :=
  names.forM fun n => do
    if let .exportName _ orig _ := n.form then
      match orig.form with
      | .ident w _ => if neverVariables.contains w then report orig.span (.exportNeedsFrom w)
      | .string .. => report orig.span .exportString
      | _ => pure ()

/-- A list of names that are exported. -/
def exportList (start : Nat) (typeOnly : Bool) : Read Node := do
  let pos ← curPos
  if ← eat "*" then
    if ← sees "from" then
      let source ← fromClause
      return ← nodeFrom start (.exportAll typeOnly source)
    expect "as"
    let n ← exportedName
    let spec ← nodeFrom pos (.exportNamespace n)
    let source ← fromClause
    return ← nodeFrom start (.exportNamed typeOnly [spec] (some source))
  expect "\x7b"
  let names ← nameList (exportSpecifier typeOnly)
  if ← sees "from" then
    let source ← fromClause
    nodeFrom start (.exportNamed typeOnly names (some source))
  else
    checkOwnExports names
    let _ ← eatStatementEnd
    nodeFrom start (.exportNamed typeOnly names none)

/-- What a module exports by default, behind the word. -/
def exportDefault (g : Grammar) (start : Nat) : Read Node := do
  if ← hasTypes then
    if ← (sees "abstract" <&&> seesNext "class" <&&> notM lineBreakBetween) then
      let pos ← curPos
      bump
      let (named, body) ← classRest g pos false true
      let decl := Node.mk body.span (.classExpr named body)
      return ← nodeFrom start (.exportDefault decl)
    if ← (sees "abstract" <&&> seesNext "interface") then
      report (← curSpan) .abstractMisplaced
      bump
    if ← sees "interface" then
      let pos ← curPos
      bump
      let decl ← interface g pos
      return ← nodeFrom start (.exportDefault decl)
  if ← sees "class" then
    let decl ← classExpr g
    nodeFrom start (.exportDefault decl)
  else if ← (sees "async" <&&> seesNext "function" <&&> notM lineBreakBetween) then
    let pos ← curPos
    bump
    let (named, rest) ← function g (some pos) false false
    nodeFrom start (.exportDefault (.mk rest.span (.functionExpr named rest)))
  else if ← sees "function" then
    let (named, rest) ← function g none false false
    nodeFrom start (.exportDefault (.mk rest.span (.functionExpr named rest)))
  else
    let expr ← g.assignIn
    expectStatementEnd
    nodeFrom start (.exportDefaultExpr expr)

/-- An export that only scripts with types have, if one is ahead. -/
def typedExport? (g : Grammar) (start : Nat) : Read (Option Node) := do
  if !(← hasTypes) then return none
  let pos ← curPos
  if ← eat "declare" then
    if let some decl ← declared? g pos then return some (← nodeFrom start (.exportDecl decl))
  if let some (.word w) ← cur? then
    let decl ← attempt do
      let pos ← curPos
      wordDeclaration? g pos w true
    if let some d := decl then return some (← nodeFrom start (.exportDecl d))
  if ← eat "import" then
    let typeOnly ← sees "type" <&&> seesNextIdent
    if typeOnly then bump
    let id ← name
    return some (← importEquals start id true typeOnly)
  if ← eat "=" then
    let expr ← g.expr
    expectStatementEnd
    return some (← nodeFrom start (.exportEquals expr))
  if ← eat "as" then
    expect "namespace"
    let id ← ident false false
    expectStatementEnd
    return some (← nodeFrom start (.exportAsNamespace id))
  return none

/-- **An export.** -/
def exportStatement (g : Grammar) : Read Node := do
  let start ← curPos
  bump
  let _ ← cur
  if let some node ← typedExport? g start then return node
  let typeOnly ← if ← hasTypes then eat "type" else pure false
  if ← (pure (!typeOnly) <&&> eat "default") then return ← exportDefault g start
  let isLet ← if ← sees "let" then seesNextToken Token.followsLet else pure false
  let pos ← curPos
  if ← sees "class" then
    let decl ← classDecl g pos false
    nodeFrom start (.exportDecl decl)
  else if ← (sees "async" <&&> seesNext "function" <&&> notM lineBreakBetween) then
    bump
    let decl ← functionDecl g (some pos)
    nodeFrom start (.exportDecl decl)
  else if ← sees "function" then
    let decl ← functionDecl g none
    nodeFrom start (.exportDecl decl)
  else if ← (hasTypes <&&> sees "const" <&&> seesNext "enum") then
    bump
    bump
    let decl ← enum g pos true
    nodeFrom start (.exportDecl decl)
  else if (← seesAny ["var", "const"]) || isLet then
    let decl ← varDeclaration g false
    nodeFrom start (.exportDecl decl)
  else exportList start typeOnly

/-- **A statement, an import or an export.** -/
def moduleItemOf (g : Grammar) : Read Node := do
  if ← sees "import" then importStatement g
  else if ← sees "export" then exportStatement g
  else plainStatement g true

end EnvSchema.Script.Read
