import EnvSchema.Script.Reader.Grammar

/-!
# Names and keys

* `Read.name` — any word as a name, as it may follow a point;
* `Read.ident`, `Read.identRef`, `Read.bindingIdent` — a name that refers to a variable or binds
  one, which not every word may be;
* `Read.propertyKey` — the key of a property: a name, a text, a number, or an expression in
  brackets.
-/

namespace EnvSchema.Script

/-- The names that strict code may not bind. -/
def isReservedBinding (name : String) : Bool := name == "eval" || name == "arguments"

/-- The words that strict code may not use as names. -/
def strictNames : List String :=
  ["yield", "let", "static", "implements", "interface", "package", "private", "protected", "public"]

/-- Whether a word may be the name of a variable at a place of the grammar. The flags say whether
there are types, and whether `yield` and `await` are such names. -/
def Context.allowsName (c : Context) (typed withYield withAwait : Bool) (w : String) : Bool :=
  match w with
  | "await" => c.inDeclare || withAwait
  | "this" => typed
  | "let" => true
  | "yield" => withYield
  | w => !keywords.contains w && !literalWords.contains w

namespace Read

/-- Whether the token ahead may be the name of a variable. -/
def seesIdent : Read Bool := do
  let c ← context
  seesToken fun t => match t with
    | .word w => !c.isReserved w
    | _ => false

/-- Whether the token after the one ahead may be the name of a variable. -/
def seesNextIdent : Read Bool := do
  let c ← context
  seesNextToken fun t => match t with
    | .word w => !c.isReserved w
    | _ => false

/-- Whether any word is ahead. -/
def seesWord : Read Bool := seesToken Token.isAnyWord

/-- Takes a word that is ahead. -/
def takeWord : Read String := do
  match ← cur? with
  | some (.word w) =>
    bump
    return w
  | _ => stopHere .identExpected

/-- **Any word as a name.** -/
def name : Read Node := do
  let start ← curPos
  match ← cur with
  | .word w =>
    bump
    nodeFrom start (.ident w false)
  | .elementName n =>
    if (← context).inType then
      bump
      nodeFrom start (.ident n false)
    else stopHere .identExpected
  | _ => stopHere .identExpected

/-- The text of a name. -/
def nameText : Read String := return ((← name).name?).getD ""

/-- A private name. -/
def privateName : Read Node := do
  let start ← curPos
  bump
  let hashEnd ← lastPos
  -- no blank may stand behind the mark
  if (← curPos) != hashEnd then stop (← spanFrom start) .spaceAfterHash
  let text ← nameText
  nodeFrom start (.privateName text)

/-- A name or a private name. -/
def maybePrivateName : Read Node := do
  if ← sees "#" then privateName else name

/-- **A name that a variable may have.** The flags say whether `yield` and `await` are such
names. -/
def ident (withYield withAwait : Bool) : Read Node := do
  let start ← curPos
  let _ ← cur
  if !(← seesWord) then stopHere .identExpected
  let w ← takeWord
  let span := (← get).prevSpan
  let c ← context
  let typed ← hasTypes
  if w == "enum" then report span (.strictIdent w)
  else if strictNames.contains w then recordStrict span (.strictIdent w)
  if w == "await" && !c.inDeclare then
    if c.inStaticBlock then stop span .identExpected
    if c.isModule || c.inAsync then stop span .asyncIdent
  if w == "arguments" && c.inClassField then report span .argumentsInField
  if !c.allowsName typed withYield withAwait w then stop span .identExpected
  nodeFrom start (.ident w false)

/-- A name that refers to a variable. -/
def identRef : Read Node := do
  let c ← context
  ident (!c.inGenerator) (!c.inAsync)

/-- A name that binds a variable; the flag says that `let` is no name there. -/
def bindingIdent (noLet : Bool) : Read Node := do
  if ← (pure noLet <&&> sees "let") then
    unexpected "let is reserved in const, let, class declaration"
  let id ← ident true true
  let w := id.name?.getD ""
  let c ← context
  if isReservedBinding w then recordStrict id.span .evalOrArguments
  if (c.inAsync || c.inStaticBlock) && w == "await" then report id.span .identExpected
  if c.inGenerator && w == "yield" then report id.span .identExpected
  return .mk id.span (.binding w false none)

/-- A name that binds a variable, if one is ahead. -/
def bindingIdent? (noLet : Bool) : Read (Option Node) := do
  if ← (seesIdent <||> (hasTypes <&&> sees "this")) then return some (← bindingIdent noLet)
  else return none

/-- A literal text, number or word, whose token is ahead. -/
def literal : Read Node := do
  let start ← curPos
  match ← cur with
  | .word "null" =>
    bump
    nodeFrom start .null
  | .word "true" =>
    bump
    nodeFrom start (.bool true)
  | .word "false" =>
    bump
    nodeFrom start (.bool false)
  | .string value raw =>
    bump
    nodeFrom start (.string value raw)
  | .number raw =>
    bump
    nodeFrom start (.number raw)
  | .bigint raw =>
    bump
    nodeFrom start (.bigint raw)
  | _ => stopHere .expressionExpected

/-- A piece of a template. What its escapes stand for matters only if no function takes the
template. -/
def templateText (tagged : Bool) : Read Node := do
  let start ← curPos
  match ← cur with
  | .template raw cooked =>
    bump
    let cooked ← match cooked with
      | .ok s => pure (some s)
      | .error d => if tagged then pure none else throw d
    let isLast ← sees "`"
    nodeFrom start (.templatePiece raw cooked isLast)
  | _ => unexpected "template token"

/-- The name under which a module exports something: a word or a text. -/
def exportedName : Read Node := do
  match ← cur? with
  | some (.string ..) => literal
  | some (.word _) => name
  | _ => unexpected "identifier or string"

/-- The expressions after the first one in brackets, which should have been the only one. -/
def moreInBrackets (g : Grammar) (start : Nat) (first : Node) : Read Node := do
  let exprs ← loop [first] fun out => do
    if ← eat "," then return .inl (out ++ [← g.assignIn]) else return .inr out
  let span ← spanFrom start
  report span .commaInComputedName
  return .mk span (.sequence exprs)

/-- **The key of a property.** -/
def propertyKey (g : Grammar) : Read Node :=
  within (fun c => { c with inPropertyName := true }) do
    let start ← curPos
    match ← cur with
    | .string value raw =>
      bump
      nodeFrom start (.string value raw)
    | .number raw =>
      bump
      nodeFrom start (.number raw)
    | .bigint raw =>
      bump
      nodeFrom start (.bigint raw)
    | .word w =>
      bump
      nodeFrom start (.ident w false)
    | .mark "[" =>
      bump
      let inner ← curPos
      let first ← g.assignIn
      -- with types, more than one expression is reported and read; without, the bracket is missed
      let expr ← if ← (hasTypes <&&> sees ",") then moreInBrackets g inner first else pure first
      expect "]"
      nodeFrom start (.computed expr)
    | _ => unexpected "identifier, string literal, numeric literal or [ for the computed key"

/-- The key of a class member, which may be a private name. -/
def memberKey (g : Grammar) : Read Node := do
  if ← sees "#" then
    let key ← privateName
    if let .privateName "constructor" := key.form then report key.span .privateConstructor
    return key
  else propertyKey g

end Read

end EnvSchema.Script
