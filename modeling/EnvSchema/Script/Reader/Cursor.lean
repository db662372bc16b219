import EnvSchema.Script.Reader.Lexemes
import EnvSchema.Script.TokenText

/-!
# The token ahead

Tokens are cut off the text only when they are looked at, because what they are depends on the place
in the grammar. At most two are held: the one ahead and the one after it.

* `Read.cur?`, `Read.peek?` — the two tokens held;
* `Read.sees`, `Read.eat`, `Read.expect` — asks for a word or mark, takes it if it is ahead, or
  insists on it;
* `Read.stop`, `Read.report` — a fault that ends reading, and one that does not. A token that could
  not be cut speaks first in both;
* `Read.attempt` — reads on, and goes back if that fails.
-/

namespace EnvSchema.Script.Read

variable {α : Type}

/-- The token ahead with its place; nothing at the end. -/
def ahead? : Read (Option Lexeme) := do
  let r ← get
  match r.current with
  | some l => return some l
  | none =>
    match r.next with
    | some l =>
      set { r with current := some l, next := none }
      return some l
    | none =>
      let l ← lexeme
      modify fun r => { r with current := l }
      return l

/-- **The token ahead**; nothing at the end. -/
def cur? : Read (Option Token) := return (← ahead?).map (·.token)

/-- The token after the one ahead, with its place. -/
def peekLexeme? : Read (Option Lexeme) := do
  let _ ← ahead?
  let r ← get
  match r.next with
  | some l => return some l
  | none =>
    let l ← lexeme
    modify fun r => { r with next := l }
    return l

/-- **The token after the one ahead.** -/
def peek? : Read (Option Token) := return (← peekLexeme?).map (·.token)

/-- Takes the token ahead. -/
def bump : Read Unit := do
  let _ ← ahead?
  modify fun r =>
    match r.current with
    | some l => { r with prevSpan := l.span, current := none }
    | none => r

/-- Where the token ahead starts; at the end, where the last one ended. -/
def curPos : Read Nat := do
  match ← ahead? with
  | some l => return l.span.lo
  | none => return (← get).prevSpan.hi

/-- Where the last token taken ended. -/
def lastPos : Read Nat := return (← get).prevSpan.hi

/-- The place of the token ahead if it has been looked at, and of the last one taken otherwise. -/
def curSpan : Read Span := do
  let r ← get
  return (r.current.map (·.span)).getD r.prevSpan

/-- From a place to the end of the last token taken. -/
def spanFrom (start : Nat) : Read Span := return ⟨start, ← lastPos⟩

/-- A node from a place to the end of the last token taken. -/
def nodeFrom (start : Nat) (form : Form Node) : Read Node := return .mk (← spanFrom start) form

/-- Whether a condition holds of the token ahead. -/
def seesToken (p : Token → Bool) : Read Bool := return ((← cur?).map p).getD false

/-- Whether a condition holds of the token after the one ahead. -/
def seesNextToken (p : Token → Bool) : Read Bool := return ((← peek?).map p).getD false

/-- Whether the given word or mark is ahead. -/
def sees (s : String) : Read Bool := seesToken (·.isText s)

/-- Whether one of the given words and marks is ahead. -/
def seesAny (l : List String) : Read Bool := seesToken fun t => l.any t.isText

/-- Whether the given word or mark is the one after the one ahead. -/
def seesNext (s : String) : Read Bool := seesNextToken (·.isText s)

/-- Whether one of the given words and marks is the one after the one ahead. -/
def seesNextAny (l : List String) : Read Bool := seesNextToken fun t => l.any t.isText

/-- Whether the script ends here. -/
def seesEnd : Read Bool := return (← cur?).isNone

/-- **Takes the given word or mark if it is ahead.** -/
def eat (s : String) : Read Bool := do
  if ← sees s then bump; return true else return false

/-- Whether a line ends before the token ahead; the script's end counts as one. -/
def lineBreakBefore : Read Bool := return ((← ahead?).map (·.afterLineBreak)).getD true

/-- Whether a line ends between the token ahead and the one after it. -/
def lineBreakBetween : Read Bool := return ((← peekLexeme?).map (·.afterLineBreak)).getD true

/-- Whether a statement may end here. -/
def atStatementEnd : Read Bool := do
  match ← cur? with
  | none => return true
  | some t =>
    if t.isMark ";" || t.isMark "\x7d" then return true else lineBreakBefore

/-- Takes the semicolon ahead, if there is one; says whether a statement may end here. -/
def eatStatementEnd : Read Bool := do
  match ← cur? with
  | none => return true
  | some t =>
    if t.isMark ";" then bump; return true
    else if t.isMark "\x7d" then return true
    else lineBreakBefore

/-- If no token could be cut here, stops for the reason of that. -/
def failAtFaulty : Read Unit := do
  if let some (.faulty d) ← cur? then
    bump
    throw d

/-- **Stops with a fault**, or for the reason why no token could be cut here. -/
def stop (span : Span) (fault : Fault) : Read α := do
  failAtFaulty
  fail span fault

/-- Stops with a fault at the token ahead, or at the last one taken if none has been looked at. -/
def stopHere (fault : Fault) : Read α := do
  stop (← curSpan) fault

/-- **Records a fault that reading can go on after.** -/
def report (span : Span) (fault : Fault) : Read Unit := do
  if !(← context).ignoreFaults then
    if let some (.faulty d) ← cur? then
      bump
      record d.span d.fault
    record span fault

/-- The token ahead as a diagnostic shows it. -/
def shownCur : Read String := return ((← cur?).map Token.shown).getD "<eof>"

/-- Stops because of the token ahead, saying what would be right. -/
def unexpected (wanted : String) : Read α := do
  let got ← shownCur
  stop (← curSpan) (.unexpected got wanted)

/-- **Takes the given word or mark**, and stops if it is not ahead. -/
def expect (s : String) : Read Unit := do
  if !(← eat s) then
    let got ← shownCur
    stop (← curSpan) (.expected s got)

/-- Takes the end of a statement, and stops if there is none. -/
def expectStatementEnd : Read Unit := do
  if !(← eatStatementEnd) then
    let got ← shownCur
    stop (← curSpan) (.expected ";" got)

/-- The token ahead, which has to be there. -/
def cur : Read Token := do
  match ← cur? with
  | some (.faulty d) =>
    bump
    throw d
  | some t => return t
  | none =>
    let r ← get
    fail (.point (r.start + r.size)) .endOfInput

/-- Goes back to an earlier state, but for the faults and comments found since. -/
def back (before : Reader) : Read Unit :=
  modify fun r => { before with faults := r.faults, comments := r.comments }

/-- **Reads on without recording faults**, and goes back unless there is an answer. -/
def attempt (step : Read (Option α)) : Read (Option α) := do
  let before ← get
  if !before.dialect.hasTypes then return none
  set { before with context := { before.context with ignoreFaults := true } }
  match ← outcome step with
  | .ok (some a) =>
    modify fun r => { r with
      context := { r.context with ignoreFaults := before.context.ignoreFaults } }
    return some a
  | _ =>
    back before
    return none

/-- Reads on without recording faults, and goes back in any case. -/
def lookAhead (step : Read α) : Read α := do
  let before ← get
  set { before with context := { before.context with ignoreFaults := true } }
  let res ← outcome step
  back before
  settle res

/-- Takes a comma, unless the given mark is ahead; what separates the items of a list. -/
def comma (close : String) : Read Unit := do
  if !(← sees close) then expect ","

/-- Whether the dialect has types. -/
def hasTypes : Read Bool := return (← get).dialect.hasTypes

/-- Whether the dialect has elements. -/
def hasJsx : Read Bool := return (← get).dialect.hasJsx

/-- Reads a phrase if a condition holds. -/
def when? (b : Bool) (step : Read α) : Read (Option α) := do
  if b then return some (← step) else return none

end EnvSchema.Script.Read
