import EnvSchema.Script.Reader.Functions

/-!
# Objects

* `Read.objectProperty` — one property of an object;
* `Read.object` — an object between its braces.
-/

namespace EnvSchema.Script.Read

variable {α : Type}

/-- Within a method of an object. -/
def asMethod (step : Read α) : Read α :=
  within (fun c => { c with allowSuper := true, inClassField := false }) step

/-- A getter, a setter or an asynchronous method of an object, whose first word has been taken. -/
def accessorProperty (g : Grammar) (start : Nat) (word : String) (stray : Option Span) :
    Read Node := do
  if let some span := stray then report span .asyncModifier
  let isGenerator ← if word == "async" then eat "*" else pure false
  let key ← propertyKey g
  asMethod do
    match word with
    | "get" =>
      let f ← functionRest g start (getterParameters g key.span) false false
      match f.form with
      | .function _ _ _ body _ type => nodeFrom start (.getterProperty key type body)
      | _ => return f
    | "set" =>
      let f ← functionRest g start (setterParameters g key.span) false false
      match f.form with
      | .function _ _ params body _ _ =>
        let patterns := params.map fun p => match p.form with
          | .param pattern => pattern
          | _ => p
        let (this, param) ← match patterns with
          | a :: b :: _ => pure (some a, b)
          | [a] => pure (none, a)
          | [] =>
            report key.span .setterParameters
            pure (none, .mk .none .invalid)
        nodeFrom start (.setterProperty key this param body)
      | _ => return f
    | _ =>
      let f ← functionRest g start (parameters g) true isGenerator
      return .mk (.cover key.span f.span) (.methodProperty key f)

/-- Whether the token ahead may follow the key of a property. -/
def followsKey (key : Node) : Read Bool := do
  let isName := key.name?.isSome
  seesToken fun t => match t with
    | .word _ | .string .. | .number _ | .bigint _ => true
    | .mark m => ["(", "[", ":", ",", "?", "=", "*", "\x7d", "<"].contains m || (m == "\x7d" && isName)
    | _ => false

/-- **One property of an object.** -/
def objectProperty (g : Grammar) : Read Node := do
  let start ← curPos
  if ← eat "..." then
    let arg ← g.assignIn
    return ← nodeFrom start (.spread arg)
  if ← eat "*" then
    let key ← propertyKey g
    let f ← asMethod (functionRest g start (parameters g) false true)
    return .mk (.cover key.span f.span) (.methodProperty key f)
  let stray ← strayModifier
  let straySpan := (← get).prevSpan
  let key ← propertyKey g
  if ← (hasTypes <&&> notM (followsKey key)) then
    let _ ← ahead?
    report (← curSpan) .semicolonExpected
    let value ← nodeFrom start .invalid
    return .mk (.cover key.span value.span) (.keyValue key value)
  if ← eat ":" then
    let value ← g.assignIn
    return .mk (.cover key.span value.span) (.keyValue key value)
  if ← (sees "(" <||> (hasTypes <&&> sees "<")) then
    let f ← asMethod (functionRest g start (parameters g) false false)
    return .mk (.cover key.span f.span) (.methodProperty key f)
  match key.name? with
  | none => unexpected "identifier"
  | some word =>
    if ← eat "?" then report (← get).prevSpan .optionalMember
    if ← seesAny ["=", ",", "\x7d"] then
      if ← eat "=" then
        let value ← g.assignIn
        nodeFrom start (.assignProperty key value)
      else return .mk key.span (.shorthand key)
    else if ["get", "set", "async"].contains word then
      accessorProperty g start word (if stray then some straySpan else none)
    else if ← hasTypes then
      unexpected "... , *,  (, [, :, , ?, =, an identifier, public, protected, private, readonly, <."
    else unexpected "... , *,  (, [, :, , ?, = or an identifier"

/-- **An object between its braces.** The place of a comma behind the last property is kept, because
the object may turn out to be a pattern. -/
def object (g : Grammar) : Read Node :=
  within (fun c => { c with expectsColon := false }) do
    let start ← curPos
    let (props, comma) ← bracedItems (objectProperty g)
    let node ← nodeFrom start (.object props)
    if let some span := comma then
      modify fun r => { r with trailingCommas := (start, span) :: r.trailingCommas }
    return node

end EnvSchema.Script.Read
