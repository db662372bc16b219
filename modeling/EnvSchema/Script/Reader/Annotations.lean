import EnvSchema.Script.Reader.Names

/-!
# Modifiers and type annotations

* `Read.modifier?` — a word such as `readonly` before what it modifies;
* `Read.colonType`, `Read.colonType?` — a type behind a colon.
-/

namespace EnvSchema.Script.Read

/-- Within a type. -/
def inType {α : Type} (step : Read α) : Read α := within (fun c => { c with inType := true }) step

/-- Whether what follows the word ahead may be what it modifies. The word is taken. -/
def modifies : Read Bool := do
  bump
  if ← lineBreakBefore then return false
  seesToken fun t => match t with
    | .word _ | .string .. | .number _ | .bigint _ => true
    | .mark m => ["[", "\x7b", "*", "...", "#"].contains m
    | _ => false

/-- **Takes one of the given modifiers**, if one is ahead and something follows that it may modify.
The flag says that `static` before a brace is none. -/
def modifier? (allowed : List String) (beforeBlock : Bool) : Read (Option String) := do
  if !(← hasTypes) then return none
  let t ← cur
  let w := match t with
    | .word w => if t.isName || w == "in" || w == "const" then w else ""
    | _ => ""
  if !allowed.contains w then return none
  if ← (pure (beforeBlock && w == "static") <&&> seesNext "\x7b") then return none
  let taken ← attempt do if ← modifies then return some () else return none
  return taken.map fun _ => w

/-- Takes a modifier of access or `readonly`, where none belongs; says whether there was one. -/
def strayModifier : Read Bool := do
  if ← (hasTypes <&&> seesAny ["public", "protected", "private", "readonly"]) then
    let followed ← seesNextToken fun t => match t with
      | .word _ => true
      | .mark m => m == "\x7b" || m == "["
      | _ => false
    if followed then
      let _ ← modifier? ["public", "protected", "private", "readonly"] false
    return followed
  else return false

/-- A type, which an annotation that started at a place goes on with. -/
def typeFrom (g : Grammar) (start : Nat) : Read Node :=
  inType do nodeFrom start (.colonType (← g.type))

/-- **A type behind a colon.** -/
def colonType (g : Grammar) : Read Node := do
  let start ← curPos
  inType do
    bump
    nodeFrom start (.colonType (← g.type))

/-- A type behind a colon, if a colon is ahead. -/
def colonType? (g : Grammar) : Read (Option Node) := do
  if ← sees ":" then return some (← colonType g) else return none

end EnvSchema.Script.Read
