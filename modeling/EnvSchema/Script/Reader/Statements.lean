import EnvSchema.Script.Reader.Operators
import EnvSchema.Script.Reader.TypeDeclarations

/-!
# Statements

* `Read.blockOf` — statements between braces;
* `Read.forLoop`, `Read.ifStatement`, … — one reader for each kind of statement;
* `Read.plainStatement` — a statement or declaration, by its first token.
-/

namespace EnvSchema.Script.Read

/-- Within a loop. -/
def inLoop {α : Type} (step : Read α) : Read α :=
  within (fun c => { c with canBreak := true, canContinue := true }) step

/-- Reads statements up to a closing brace, which is taken. The first of them may be a directive. -/
def statementsUntilBrace (directives : Bool) (item : Read Node) : Read (List Node) := do
  let before ← context
  let body ← loop ([] : List Node) fun out => do
    if ← seesEnd then
      report (← curSpan) (.expected "\x7d" "<eof>")
      return .inr out
    if ← eat "\x7d" then return .inr out
    let node ← item
    -- the directive holds for the rest of the block; the rules from before it come back behind that
    if directives && out.isEmpty && node.isUseStrict then
      modify fun r => { r with context := { before with strict := true } }
    return .inl (out ++ [node])
  modify fun r => { r with context := before }
  return body

/-- **Statements between braces.** -/
def blockOf (g : Grammar) (directives : Bool) : Read Node := do
  let start ← curPos
  expect "\x7b"
  let body ← statementsUntilBrace directives g.statementItem
  nodeFrom start (.block body)

/-- A jump out of a loop, or to its next round. -/
def jump (start : Nat) (isBreak : Bool) : Read Node := do
  bump
  let label ←
    if ← eatStatementEnd then pure none
    else
      let id ← identRef
      expectStatementEnd
      pure (some id)
  let span ← spanFrom start
  let c ← context
  let labels := (← get).labels
  -- a jump without a label has nothing to look for
  let known := match label.bind Node.name? with
    | some n => labels.contains n
    | none => true
  if isBreak then
    if !known then report span .breakLabel
    else if !c.canBreak then report span .breakOutside
    return .mk span (.breakStatement label)
  else
    if !c.canContinue then report span .continueOutside
    else if !known then report span .continueLabel
    return .mk span (.continueStatement label)

/-- An expression in brackets, behind a keyword. -/
def condition (g : Grammar) : Read Node := do
  expect "("
  let expr ← g.exprIn
  expect ")"
  return expr

/-- A choice between two statements. -/
def ifStatement (g : Grammar) (start : Nat) : Read Node := do
  bump
  let test ← condition g
  let yes ← g.statement
  let no ← when? (← eat "else") g.statement
  nodeFrom start (.ifStatement test yes no)

/-- A return from a function. -/
def returnStatement (g : Grammar) (start : Nat) : Read Node := do
  let node ← outcome do
    bump
    let arg ← if ← atStatementEnd then pure none else some <$> g.exprIn
    expectStatementEnd
    nodeFrom start (.returnStatement arg)
  -- this is reported even if what is returned could not be read
  if !(← context).inFunction then report (← spanFrom start) .returnNotAllowed
  settle node

/-- One case of a choice by value; says whether it is the one for all other values. -/
def switchCase (g : Grammar) (hasDefault : Bool) : Read (Node × Bool) := do
  let start ← curPos
  let isCase ← sees "case"
  bump
  let test ←
    if isCase then some <$> g.exprIn
    else if hasDefault then stopHere .severalDefaults
    else pure none
  expect ":"
  let body ← loop ([] : List Node) fun out => do
    if ← (seesEnd <||> seesAny ["case", "default", "\x7d"]) then return .inr out
    return .inl (out ++ [← g.statementItem])
  return (← nodeFrom start (.switchCase test body), !isCase)

/-- A choice by value. -/
def switchStatement (g : Grammar) (start : Nat) : Read Node := do
  bump
  let subject ← condition g
  expect "\x7b"
  let cases ← within (fun c => { c with canBreak := true }) do
    loop (([] : List Node), false) fun (out, hasDefault) => do
      if ← seesAny ["case", "default"] then
        let (node, isDefault) ← switchCase g hasDefault
        return .inl (out ++ [node], hasDefault || isDefault)
      else return .inr out
  expect "\x7d"
  nodeFrom start (.switch subject cases)

/-- A statement that gives up. -/
def throwStatement (g : Grammar) (start : Nat) : Read Node := do
  bump
  if ← lineBreakBefore then stopHere .throwLineBreak
  let arg ← g.exprIn
  expectStatementEnd
  nodeFrom start (.throwStatement arg)

/-- What is given to the handler of an error. -/
def catchParam? (g : Grammar) : Read (Option Node) := do
  if !(← eat "(") then return none
  let pattern ← g.pattern false
  let pos ← curPos
  let pattern ←
    if ← (hasTypes <&&> eat ":") then pure (pattern.withType (some (← typeFrom g pos)))
    else pure pattern
  expect ")"
  return some pattern

/-- The handler of an error, if there is one. -/
def catchClause? (g : Grammar) : Read (Option Node) := do
  let start ← curPos
  if !(← eat "catch") then return none
  let param ← catchParam? g
  let body ← g.block false
  return some (← nodeFrom start (.catchClause param body))

/-- What is done in any case, if there is anything. -/
def finallyBlock? (g : Grammar) : Read (Option Node) := do
  when? (← eat "finally") (g.block false)

/-- A statement whose errors are handled. -/
def tryStatement (g : Grammar) (start : Nat) : Read Node := do
  bump
  let body ← g.block false
  let pos ← curPos
  let handler ← catchClause? g
  let finalizer ← finallyBlock? g
  -- one of the two has to be there
  if handler.isNone && finalizer.isNone then report (.point pos) .semicolonExpected
  nodeFrom start (.tryStatement body handler finalizer)

/-- A handler without what it handles the errors of. -/
def strayHandler (g : Grammar) : Read Node := do
  let span ← curSpan
  report span .semicolonExpected
  -- both are read only to go on behind them
  let _ ← outcome (catchClause? g)
  let _ ← outcome (finallyBlock? g)
  return .mk span (.exprStatement (.mk span .invalid))

/-- A statement within the scope of an object. -/
def withStatement (g : Grammar) (start : Nat) : Read Node := do
  let span ← curSpan
  if ← hasTypes then report span .withUnsupported
  recordStrict span .withInStrict
  bump
  let object ← condition g
  let body ← within (fun c => { c with inFunction := true }) g.statement
  nodeFrom start (.withStatement object body)

/-- A statement with a label, which has been read with its colon. -/
def labeled (g : Grammar) (label : Node) : Read Node :=
  within (fun c => { c with canBreak := true }) do
    let text := label.name?.getD ""
    let known := (← get).labels.contains text
    modify fun r => { r with labels := r.labels ++ [text] }
    let body ←
      if ← sees "function" then
        let f ← functionDecl g none
        if let .functionDecl _ _ (.mk span _) := f.form then
          if (← context).strict then report span .labelledFunction
        pure f
      else g.statement
    if known then report label.span (.duplicateLabel text)
    -- behind its statement the label is free again
    modify fun r => { r with labels := r.labels.erase text }
    nodeFrom label.lo (.labeled label body)

/-! ### Loops -/

/-- What stands in the brackets of a `for` loop. -/
inductive ForHead where
  /-- A start, a condition and a step. -/
  | counted (init test update : Option Node)
  /-- The keys of an object. -/
  | keys (left right : Node)
  /-- The values of a sequence. -/
  | values (left right : Node)

/-- The head of a loop over keys or values, behind what is given them. -/
def eachHead (g : Grammar) (left : Node) : Read ForHead := do
  let isOf ← sees "of"
  bump
  if isOf then return .values left (← g.assignIn)
  if let .usingDecl .. := left.form then report left.span .usingInForIn
  return .keys left (← g.exprIn)

/-- A semicolon that the end of a line does not stand for. -/
def expectSemicolon : Read Unit := do
  if ← sees ";" then bump
  else
    let got ← shownCur
    stop (← curSpan) (.expected ";" got)

/-- The condition and the step of a counted loop. -/
def countedHead (g : Grammar) (init : Option Node) : Read ForHead := do
  let test ←
    if ← eat ";" then pure none
    else
      let test ← g.exprIn
      expectSemicolon
      pure (some test)
  let update ← if ← sees ")" then pure none else some <$> g.exprIn
  return .counted init test update

/-- Checks a declaration in the head of a loop over keys or values. -/
def checkEachDeclaration (decls : List Node) : Read Unit := do
  let isOf ← sees "of"
  match decls with
  | [.mk _ (.declarator pattern value _)] =>
    if ((← context).strict || isOf) && value.isSome then report pattern.span .forHeadInit
    if ← hasTypes then
      let typed := match pattern.form with
        | .binding _ _ type => type.isSome
        | _ => false
      if typed then report pattern.span .forHeadTyped
  | _ =>
    (decls.drop 1).forM fun d => do
      if let .declarator pattern .. := d.form then report pattern.span .forHeadSeveral

/-- Whether what was read is the word that starts a declaration of a resource, and says whether the
resource is waited for. -/
def usingHead? (init : Node) : Option Bool :=
  match init.form with
  | .ident "using" _ => some false
  | .await (.mk _ (.ident "using" _)) => some true
  | _ => none

/-- What stands in the brackets of a `for` loop. -/
def forHead (g : Grammar) : Read ForHead := do
  let declares ←
    if ← seesAny ["const", "var"] then pure true
    else if ← sees "let" then seesNextToken Token.followsLet
    else pure false
  if declares then
    let decl ← varDeclaration g true
    if ← seesAny ["of", "in"] then
      if let .varDecl _ _ decls := decl.form then checkEachDeclaration decls
      return ← eachHead g decl
    expectSemicolon
    return ← countedHead g (some decl)
  if ← eat ";" then return ← countedHead g none
  let start ← curPos
  let init ← within (fun c => { c with includeIn := false }) g.expr
  -- the word `using` is a name, unless another name follows it before `of` or `in`
  if let some isAwait := usingHead? init then
    if ← (notM (sees "of") <&&> seesNextAny ["of", "in"]) then
      let pattern ← bindingIdent false
      let decl ← nodeFrom start (.declarator pattern none false)
      let decl ← nodeFrom start (.usingDecl isAwait [decl])
      let _ ← cur
      return ← eachHead g decl
  if ← seesAny ["of", "in"] then
    -- what has been read as an expression is what the keys or values are given to
    let isIn ← sees "in"
    let pattern ← patternOf .target init
    if (← hasTypes) && isIn then
      match pattern.form with
      | .arrayPattern .. | .objectPattern .. | .invalid => report pattern.span .forInPattern
      | _ => pure ()
    return ← eachHead g pattern
  expectSemicolon
  verify init
  countedHead g (some init)

/-- A `for` loop. -/
def forLoop (g : Grammar) (start : Nat) : Read Node := do
  bump
  let awaitStart ← curPos
  let isAwait ← eat "await"
  let awaitSpan ← spanFrom awaitStart
  expect "("
  let head ← within (fun c => { c with inForHead := true, inForAwaitHead := isAwait }) (forHead g)
  expect ")"
  let body ← inLoop g.statement
  let span ← spanFrom start
  match head with
  | .counted init test update =>
    if isAwait then stop awaitSpan .awaitForHead
    return .mk span (.forLoop init test update body)
  | .keys left right =>
    if isAwait then stop awaitSpan .awaitForHead
    return .mk span (.forIn left right body)
  | .values left right => return .mk span (.forOf isAwait left right body)

/-- A loop with its condition at the start. -/
def whileLoop (g : Grammar) (start : Nat) : Read Node := do
  bump
  let test ← condition g
  let body ← inLoop g.statement
  nodeFrom start (.whileLoop test body)

/-- A loop with its condition at the end. -/
def doWhile (g : Grammar) (start : Nat) : Read Node := do
  bump
  let body ← inLoop g.statement
  expect "while"
  let test ← condition g
  -- no semicolon is needed behind the brackets
  let _ ← eatStatementEnd
  nodeFrom start (.doWhile test body)

/-! ### Statements by their first token -/

/-- What follows an expression that is a statement and a name. -/
def afterName? (g : Grammar) (start : Nat) (expr : Node) (word : String) : Read (Option Node) := do
  if ← (pure (word == "interface") <&&> lineBreakBefore) then
    recordStrict expr.span (.strictIdent word)
    let _ ← eatStatementEnd
    return some (← nodeFrom start (.exprStatement expr))
  if ← hasTypes then
    if let some decl ← declarationAfter? g expr then return some decl
  if word == "enum" || word == "interface" then recordStrict expr.span (.strictIdent word)
  if (← hasTypes) && ["public", "static", "abstract"].contains word then
    if ← eat "interface" then
      report expr.span .interfaceName
      return some (← interface g start)
  return none

/-- **A statement that is an expression**, or a name that turns out to be a label. -/
def expressionStatement (g : Grammar) (start : Nat) : Read Node := do
  let expr ← g.exprIn
  match expr.form with
  | .ident word _ =>
    if ← eat ":" then return ← labeled g expr
    if let some node ← afterName? g start expr word then return node
  | _ => verify expr
  if ← eatStatementEnd then nodeFrom start (.exprStatement expr)
  -- a semicolon is missing before what looks like an operator; the expression goes on all the same
  else if ← seesToken Token.isBinary then
    report (← curSpan) .semicolonExpected
    let expr ← binaryRest g expr
    nodeFrom start (.exprStatement expr)
  else stopHere .statementEndExpected

/-- A declaration of types that starts with the word ahead, if a name follows it on the line. -/
def typeStatement? (g : Grammar) (start : Nat) (word : String) : Read (Option Node) := do
  if ← notM (hasTypes <&&> seesNextToken Token.isAnyWord <&&> notM lineBreakBetween) then
    return none
  match word with
  | "interface" =>
    bump
    return some (← interface g start)
  | "type" =>
    bump
    return some (← typeAlias g start)
  | "enum" =>
    bump
    return some (← enum g start false)
  | _ => return none

/-- A declaration of a resource that is waited for, if the word `await` ahead starts one, or what
else starts with it. -/
def awaitUsing? (g : Grammar) (start : Nat) : Read (Option Node) := do
  if !(← seesNext "using") then return none
  bump
  if let some decl ← usingDeclaration? g start true then return some decl
  -- no declaration: `using` is a name, and what is waited for starts with it
  let arg ← g.unary
  let expr ← nodeFrom start (.await arg)
  let expr ← within (fun c => { c with includeIn := true }) (binaryRest g expr)
  let _ ← eatStatementEnd
  return some (← nodeFrom start (.exprStatement expr))

/-- A declaration where declarations may stand, if the word ahead starts one. -/
def declarationStatement? (g : Grammar) (start : Nat) (word : String) : Read (Option Node) := do
  match word with
  | "const" => return some (← varDeclaration g false)
  | "let" =>
    if ← seesNextToken Token.followsLet then return some (← varDeclaration g false)
    else return none
  | "using" => usingDeclaration? g start false
  | "await" => awaitUsing? g start
  | _ => return none

/-- The statement that a keyword ahead starts, if it starts one. -/
def keywordStatement? (g : Grammar) (start : Nat) (word : String) (declares : Bool) :
    Read (Option Node) := do
  match word with
  | "break" => some <$> jump start true
  | "continue" => some <$> jump start false
  | "debugger" =>
    bump
    expectStatementEnd
    return some (← nodeFrom start .debugger)
  | "do" => some <$> doWhile g start
  | "for" => some <$> forLoop g start
  | "function" =>
    if !declares then report (← curSpan) .declarationNotAllowed
    some <$> functionDecl g none
  | "class" =>
    if !declares then report (← curSpan) .declarationNotAllowed
    some <$> classDecl g start false
  | "if" => some <$> ifStatement g start
  | "return" => some <$> returnStatement g start
  | "switch" => some <$> switchStatement g start
  | "throw" => some <$> throwStatement g start
  | "catch" | "finally" => some <$> strayHandler g
  | "try" => some <$> tryStatement g start
  | "with" => some <$> withStatement g start
  | "while" => some <$> whileLoop g start
  | "var" => some <$> varDeclaration g false
  | _ => return none

/-- **A statement**, and a declaration too where the flag allows it. -/
def plainStatement (g : Grammar) (declares : Bool) : Read Node :=
  within (fun c => { c with expectsColon := false }) do
    let start ← curPos
    if ← (hasTypes <&&> sees "const" <&&> seesNext "enum") then
      bump
      bump
      return ← enum g start true
    match ← cur with
    | .mark "\x7b" => g.block false
    | .mark ";" =>
      bump
      nodeFrom start .empty
    | .word w =>
      if let some node ← keywordStatement? g start w declares then return node
      if declares then
        if let some node ← declarationStatement? g start w then return node
      if let some node ← typeStatement? g start w then return node
      -- on one line with `function` the word makes it wait; otherwise it is a name
      if ← (pure (w == "async") <&&> seesNext "function" <&&> notM lineBreakBetween) then
        bump
        return ← functionDecl g (some start)
      expressionStatement g start
    | _ => expressionStatement g start

/-- A statement or declaration within another one, where no import or export may stand. -/
def innerStatement (g : Grammar) (declares : Bool) : Read Node := do
  if ← seesAny ["import", "export"] then
    let start ← curPos
    -- these start an expression, which may stand anywhere
    if ← (sees "import" <&&> seesNextAny ["(", "."]) then
      let expr ← g.expr
      let _ ← eatStatementEnd
      nodeFrom start (.exprStatement expr)
    else stopHere .misplacedImportExport
  else plainStatement g declares

end EnvSchema.Script.Read
