import EnvSchema.Script.Reader.Classes
import EnvSchema.Script.Reader.Variables

/-!
# Declarations of types

* `Read.interface`, `Read.typeAlias`, `Read.enum`, `Read.namespaceRest` — the declarations;
* `Read.declared?` — what stands behind the word `declare`;
* `Read.wordDeclaration?` — a declaration that starts with a word which is no keyword.
-/

namespace EnvSchema.Script

/-- The same declaration, of something that is defined elsewhere. -/
def Node.asDeclared (n : Node) : Node :=
  let form : Form Node := match n.form with
    | .functionDecl _ name f => .functionDecl true name f
    | .classDecl _ name body => .classDecl true name body
    | .varDecl kind _ decls => .varDecl kind true decls
    | .enum _ c name members => .enum true c name members
    | .interface _ name tps parents body => .interface true name tps parents body
    | .typeAlias _ name tps type => .typeAlias true name tps type
    | .namespaceDecl _ isGlobal name body => .namespaceDecl true isGlobal name body
    | f => f
  .mk n.span form

namespace Read

/-- An interface, behind its word. -/
def interface (g : Grammar) (start : Nat) : Read Node := do
  let id ← name
  if reservedTypeNames.contains (id.name?.getD "") then report id.span .interfaceName
  let tps ← typeParams? g true false
  let parents ← if ← eat "extends" then heritages g else pure []
  if ← sees "extends" then
    report (← curSpan) .extendsSeen
    loop () fun _ => do
      if ← (seesEnd <||> sees "\x7b") then return .inr ()
      bump
      return .inl ()
  let bodyStart ← curPos
  let members ← inType (objectMembers g)
  let body ← nodeFrom bodyStart (.interfaceBody members)
  nodeFrom start (.interface false id tps parents body)

/-- A type with a name of its own, behind its word. -/
def typeAlias (g : Grammar) (start : Nat) : Read Node := do
  let id ← name
  let tps ← typeParams? g true false
  let type ← typeAfter g "="
  expectStatementEnd
  nodeFrom start (.typeAlias false id tps type)

/-- The name of a member of an enumeration. -/
def enumKey (g : Grammar) : Read Node := do
  let start ← curPos
  match ← cur with
  | .string .. => literal
  | .number raw =>
    bump
    let span ← spanFrom start
    report span .enumNumericName
    return .mk span (.string (Number.plain (numeralValue raw)) ("\"" ++ raw ++ "\""))
  | .mark "[" =>
    bump
    let _ ← g.expr
    report (← spanFrom start) .enumComputedName
    expect "]"
    nodeFrom start (.ident "" false)
  | _ => name

/-- A member of an enumeration. -/
def enumMember (g : Grammar) : Read Node := do
  let start ← curPos
  let key ← enumKey g
  let value ←
    if ← eat "=" then pure (some (← g.assign))
    else if ← seesAny [",", "\x7d"] then pure none
    else
      let pos ← curPos
      bump
      -- a comma is taken for granted
      modify fun r => { r with current := some ⟨.mark ",", false, r.prevSpan⟩ }
      report (.point pos) .semicolonExpected
      pure none
  nodeFrom start (.enumMember key value)

/-- An enumeration, behind its word. -/
def enum (g : Grammar) (start : Nat) (isConst : Bool) : Read Node := do
  let id ← name
  expect "\x7b"
  let members ← loop ([] : List Node) fun out => do
    if ← sees "\x7d" then return .inr out
    let out := out ++ [← enumMember g]
    if ← eat "," then return .inl out
    if ← sees "\x7d" then return .inr out
    let got := ((← cur?).map Token.shown).getD "EOF"
    report (← curSpan) (.expected "," got)
    return .inl out
  expect "\x7d"
  nodeFrom start (.enum false isConst id members)

/-- The body of a namespace. -/
def namespaceBlock (g : Grammar) : Read Node := do
  let start ← curPos
  expect "\x7b"
  let body ← loop ([] : List Node) fun out => do
    if ← seesEnd then
      report (← curSpan) (.expected "\x7d" "<eof>")
      return .inr out
    if ← eat "\x7d" then return .inr out
    return .inl (out ++ [← g.moduleItem])
  nodeFrom start (.namespaceBlock body)

/-- A namespace, behind its word. -/
def namespaceRest (g : Grammar) (start : Nat) : Read Node := do
  let id ← name
  let body ← if ← eat "." then g.innerNamespace else namespaceBlock g
  nodeFrom start (.namespaceDecl false false id (some body))

/-- A namespace within the name of another one. -/
def innerNamespace (g : Grammar) : Read Node := do
  let start ← curPos
  let rest ← namespaceRest g start
  match rest.form with
  | .namespaceDecl _ _ id (some body) => return .mk rest.span (.namespaceInner false false id body)
  | _ => return rest

/-- A module that is defined elsewhere, or the global scope. -/
def externalModule (g : Grammar) (start : Nat) : Read Node := do
  let isGlobal ← sees "global"
  let id ←
    if isGlobal then name
    else
      match ← cur with
      | .string .. => literal
      | _ => unexpected "global or a string literal"
  let body ←
    if ← sees "\x7b" then pure (some (← namespaceBlock g))
    else
      expectStatementEnd
      pure none
  nodeFrom start (.namespaceDecl false isGlobal id body)

/-- **A declaration that starts with the given word.** The flag says that the word is still ahead,
and that a declaration has to follow it. -/
def wordDeclaration? (g : Grammar) (start : Nat) (word : String) (ahead : Bool) :
    Read (Option Node) := do
  let take : Read Unit := do if ahead then bump
  match word with
  | "abstract" =>
    if ← (pure ahead <||> (sees "class" <&&> notM lineBreakBefore)) then
      take
      return some (← classDecl g start true)
    else return none
  | "enum" =>
    if ← (pure ahead <||> seesIdent) then
      take
      return some (← enum g start false)
    else return none
  | "interface" =>
    if ← (pure ahead <||> seesIdent) then
      take
      return some (← interface g start)
    else return none
  | "module" =>
    if ← lineBreakBefore then return none
    take
    if let .string .. := ← cur then return some (← externalModule g start)
    if ← (pure ahead <||> seesIdent) then return some (← namespaceRest g start) else return none
  | "namespace" =>
    if ← (pure ahead <||> seesIdent) then
      take
      return some (← namespaceRest g start)
    else return none
  | "type" =>
    if ← (pure ahead <||> (notM lineBreakBefore <&&> seesIdent)) then
      take
      return some (← typeAlias g start)
    else return none
  | _ => return none

/-- **What stands behind the word `declare`**, if it is a declaration. -/
def declared? (g : Grammar) (start : Nat) : Read (Option Node) := do
  if !(← hasTypes) then return none
  if (← context).inDeclare then report (← spanFrom start) .modifierOnDeclare
  let decl ← within (fun c => { c with inDeclare := true }) do
    if ← sees "function" then return some (← functionDecl g none)
    if ← sees "class" then return some (← classDecl g start false)
    if ← (sees "const" <&&> seesNext "enum") then
      bump
      bump
      return some (← enum g start true)
    if ← seesAny ["const", "var", "let"] then return some (← varDeclaration g false)
    if ← sees "global" then return some (← externalModule g start)
    match ← cur? with
    | some (.word w) => wordDeclaration? g start w true
    | _ => return none
  return decl.map fun d => (d.withSpan ⟨start, d.span.hi⟩).asDeclared

/-- A declaration whose first word was read as a name. -/
def declarationAfter? (g : Grammar) (id : Node) : Read (Option Node) := do
  let start := id.lo
  match id.name?.getD "" with
  | "declare" => declared? g start
  | "global" =>
    if ← sees "\x7b" then
      let body ← namespaceBlock g
      return some (← nodeFrom start (.namespaceDecl false true id (some body)))
    else return none
  | w => wordDeclaration? g start w false

end Read

end EnvSchema.Script
