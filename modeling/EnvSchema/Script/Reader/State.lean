import EnvSchema.Script.Comment
import EnvSchema.Script.Dialect
import EnvSchema.Script.Node
import EnvSchema.Script.Token

/-!
# The state of reading a script

Reading keeps one value: the text still ahead, the tokens already taken from it, what the place in
the grammar allows, and what has been found on the way.

* `Mode` — what the innermost open bracket encloses; it decides how the next characters are cut into
  tokens;
* `Context` — what the place in the grammar allows;
* `Reader` — the whole state; its last two fields, the faults and the comments found so far, are
  kept when an attempt is given up;
* `Read` — a step of reading: it changes the state, and may stop with a diagnostic.
-/

namespace EnvSchema.Script

/-- **What the innermost open bracket encloses.** -/
inductive Mode where
  | braceStatement
  | braceExpr
  | templateValue
  | parenStatement (isLoop : Bool)
  | parenExpr
  | template
  | functionExpr
  | classExpr
  | openingTag
  | closingTag
  | elementBody
  deriving Repr, DecidableEq, Inhabited

namespace Mode

/-- Whether the bracket belongs to an expression. -/
def isExpr : Mode → Bool
  | braceExpr | templateValue | parenExpr | template | functionExpr | classExpr | elementBody => true
  | _ => false

/-- Whether blanks are part of the text there. -/
def keepsBlanks : Mode → Bool
  | template | elementBody => true
  | _ => false

end Mode

/-- **What the place in the grammar allows.** -/
structure Context where
  isModule : Bool := false
  strict : Bool := false
  /-- The word `in` is an operator. -/
  includeIn : Bool := false
  inAsync : Bool := false
  inGenerator : Bool := false
  canContinue : Bool := false
  canBreak : Bool := false
  inType : Bool := false
  /-- Angle brackets are operators also within a type. -/
  anglesAreOperators : Bool := false
  inDeclare : Bool := false
  inConditional : Bool := false
  /-- A colon ahead belongs to a conditional expression. -/
  expectsColon : Bool := false
  inClass : Bool := false
  inClassField : Bool := false
  inFunction : Bool := false
  /-- Within a function that is not an arrow. -/
  inFunctionScope : Bool := false
  inPropertyName : Bool := false
  inParameters : Bool := false
  hasSuperclass : Bool := false
  /-- An element was opened by a mark that might have been an operator. -/
  forcedElement : Bool := false
  noConditionalType : Bool := false
  allowSuper : Bool := false
  inStaticBlock : Bool := false
  inForHead : Bool := false
  inForAwaitHead : Bool := false
  /-- Faults that reading can go on after are not recorded. -/
  ignoreFaults : Bool := false
  deriving Repr, DecidableEq, Inhabited

/-- A token with its place. -/
structure Lexeme where
  token : Token
  /-- Whether a line ends between the token and the one before it. -/
  afterLineBreak : Bool
  span : Span
  deriving Inhabited

/-- **The state of reading.** -/
structure Reader where
  dialect : Dialect
  /-- The place where the text starts. -/
  start : Nat := 0
  /-- The whole text. -/
  text : List Char
  /-- The number of characters in the whole text. -/
  size : Nat
  /-- The text ahead. -/
  rest : List Char
  /-- The characters before it. -/
  pos : Nat
  /-- Whether an expression may stand ahead. -/
  exprAllowed : Bool := true
  /-- The place of a slash that starts a regular expression. -/
  regexpAt : Option Nat := none
  /-- Whether a line ended since the last token. -/
  lineBreak : Bool := false
  /-- Whether a line ended before the last token. -/
  lineBreakBefore : Bool := false
  isFirst : Bool := true
  tokenStart : Nat := 0
  /-- Where the last token ended. -/
  lastEnd : Nat
  templateStart : Nat := 0
  /-- The open brackets, the innermost first. -/
  modes : List Mode := [.braceStatement]
  lastClass : Option TokenClass := none
  /-- Comments that wait for the token after them. -/
  pending : List Comment := []
  /-- Comments with their places, the last one first; `true` for a leading one. -/
  placed : List (Bool × Nat × Comment) := []
  context : Context := {}
  /-- The token ahead, once it has been looked at. -/
  current : Option Lexeme := none
  /-- The token after it, once it has been looked at. -/
  next : Option Lexeme := none
  /-- The place of the last token taken. -/
  prevSpan : Span := .none
  labels : List String := []
  /-- Where an arrow function may start. -/
  arrowStart : Option Nat := none
  /-- The last commas in objects and arrays, by the place where those start. -/
  trailingCommas : List (Nat × Span) := []
  /-- Faults that reading could go on after, the last one first. -/
  faults : List Diagnostic := []
  comments : Comments := {}
  deriving Inhabited

/-- **A step of reading.** It stops with a diagnostic where it cannot go on. -/
abbrev Read := EStateM Diagnostic Reader

namespace Read

variable {α β γ : Type}

/-- Stops with a fault at a place. -/
def fail (span : Span) (fault : Fault) : Read α := throw ⟨span, fault⟩

/-- What a step answers, or why it stopped; the state it left is kept in both cases. -/
def outcome (step : Read α) : Read (Except Diagnostic α) := fun r =>
  match step r with
  | .ok a s => .ok (.ok a) s
  | .error d s => .ok (.error d) s

/-- Answers or stops as an earlier step did. -/
def settle : Except Diagnostic α → Read α
  | .ok a => pure a
  | .error d => throw d

/-- What the place in the grammar allows. -/
def context : Read Context := return (← get).context

/-- Runs a step where the place in the grammar allows something else, and goes back. -/
def within (change : Context → Context) (step : Read α) : Read α := fun r =>
  match step { r with context := change r.context } with
  | .ok a s => .ok a { s with context := r.context }
  | .error d s => .error d { s with context := r.context }

/-- Repeats a step until it answers; `fuel` bounds the number of times. -/
def iterate (step : β → Read (β ⊕ γ)) : Nat → β → Read γ
  | 0, _ => do fail (.point (← get).pos) .tooDeep
  | fuel + 1, b => do
    match ← step b with
    | .inl b => iterate step fuel b
    | .inr c => pure c

/-- Repeats a step until it answers. Every step but the last takes at least one token, so the size
of the text bounds their number. -/
def loop (b : β) (step : β → Read (β ⊕ γ)) : Read γ := do
  iterate step ((← get).size + 8) b

end Read

end EnvSchema.Script
