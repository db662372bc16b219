import EnvSchema.Script.Reader.State

/-!
# Blanks and comments

What stands between the tokens of a script: blanks, ends of lines and comments.

* `isBlank`, `isLineEnd` — the characters between tokens;
* `Read.skipBlanks` — passes over blanks, and over comments too if asked; comments are kept for the
  token after them, or belong to the one before them;
* `Read.placeComments` — gives the comments found to the script, once its end is reached.
-/

namespace EnvSchema.Script

/-- The characters that end a line. -/
def isLineEnd (c : Char) : Bool :=
  c == '\n' || c == '\r' || c == '\u2028' || c == '\u2029'

/-- The characters that stand between tokens, ends of lines left out. -/
def isBlank (c : Char) : Bool :=
  c == ' ' || c == '\t' || c == '\x0b' || c == '\x0c' || c == '\u00a0' || c == '\ufeff' ||
    c == '\u1680' || ('\u2000' ≤ c && c ≤ '\u200a') || c == '\u202f' || c == '\u205f' ||
    c == '\u3000'

namespace Read

/-- The character ahead. -/
def char? : Read (Option Char) := return (← get).rest.head?

/-- The character after the one ahead. -/
def charAfter? : Read (Option Char) := return (← get).rest.tail.head?

/-- Takes a number of characters. -/
def skip (n : Nat) : Read Unit :=
  modify fun r => { r with rest := r.rest.drop n, pos := r.pos + (r.rest.take n).length }

/-- Takes the characters ahead as long as they satisfy a condition. -/
def takeWhile (p : Char → Bool) : Read (List Char) := do
  let taken := (← get).rest.takeWhile p
  skip taken.length
  return taken

/-- Takes the given character if it is ahead. -/
def eatChar (c : Char) : Read Bool := do
  if (← char?) == some c then skip 1; return true else return false

/-- Whether the text ahead starts with the given one. -/
def ahead (s : String) : Read Bool := return s.toList.isPrefixOf (← get).rest

/-- Records a fault that reading can go on after. -/
def record (span : Span) (fault : Fault) : Read Unit :=
  modify fun r =>
    if r.context.ignoreFaults then r else { r with faults := ⟨span, fault⟩ :: r.faults }

/-- Records a fault from a place to where the reader is. -/
def recordFrom (start : Nat) (fault : Fault) : Read Unit := do
  record ⟨start, (← get).pos⟩ fault

/-- Records a fault that is one in strict code only. -/
def recordStrict (span : Span) (fault : Fault) : Read Unit := do
  let c ← context
  if c.strict || c.isModule then record span fault

/-- Stops with a fault from a place to where the reader is. -/
def failFrom {α : Type} (start : Nat) (fault : Fault) : Read α := do
  fail ⟨start, (← get).pos⟩ fault

/-- Keeps a comment: for the token ahead, or for the one behind. -/
def keepComment (forNext : Bool) (c : Comment) : Read Unit :=
  modify fun r =>
    if forNext then { r with pending := r.pending ++ [c] }
    else { r with placed := (false, r.lastEnd, c) :: r.placed }

/-- Passes over the rest of a line, of which `skipped` characters belong to the bracket, and keeps
it as a comment. -/
def skipLineComment (skipped : Nat) : Read Unit := do
  skip skipped
  let r ← get
  -- on a line of its own it belongs to the token ahead
  let forNext := r.lineBreak || !(r.lastClass.map TokenClass.canTrailLine).getD true
  let text ← takeWhile fun c => !isLineEnd c
  keepComment forNext ⟨.line, String.ofList text⟩

/-- Passes over blanks; says whether a line ended. -/
def skipPlain : Read Unit := do
  let taken ← takeWhile fun c => isBlank c || isLineEnd c
  if taken.any isLineEnd then modify fun r => { r with lineBreak := true }

/-- The characters up to the end of a bracketed comment, if it has one. -/
def commentBody? : List Char → List Char → Option (List Char)
  | [], _ => none
  | '*' :: '/' :: _, out => some out.reverse
  | c :: cs, out => commentBody? cs (c :: out)

/-- Passes over a bracketed comment and keeps it. A comment right before a semicolon belongs to the
token behind. -/
def skipBlockComment : Read Unit := do
  skip 2
  let r ← get
  let forNext := r.lineBreak || !(r.lastClass.map TokenClass.canTrail).getD false
  match commentBody? r.rest [] with
  | some text =>
    if text.any isLineEnd then modify fun r => { r with lineBreak := true }
    skip (text.length + 2)
    skipPlain
    keepComment (forNext && (← char?) != some ';') ⟨.block, String.ofList text⟩
  | none =>
    if r.rest.any isLineEnd then modify fun r => { r with lineBreak := true }
    skip r.rest.length
    record (.point (← get).pos) .unterminatedBlockComment

/-- Passes over blanks and comments; `fuel` bounds the number of comments. -/
def skipBlanksUpTo : Nat → Read Unit
  | 0 => pure ()
  | fuel + 1 => do
    skipPlain
    if ← ahead "//" then
      skipLineComment 2
      skipBlanksUpTo fuel
    else if ← ahead "/*" then
      skipBlockComment
      skipBlanksUpTo fuel

/-- Passes over blanks and comments. -/
def skipBlanks : Read Unit := do skipBlanksUpTo ((← get).rest.length + 1)

/-- Gives the comments found to the script. Those that still wait for a token belong to the last
one, if there was one. -/
def placeComments : Read Unit := do
  let r ← get
  let waiting := r.pending.map fun c => (r.lastEnd == r.start, r.lastEnd, c)
  let placed := r.placed.reverse ++ waiting
  let comments := placed.foldl
    (fun cs p => if p.1 then cs.addLeading p.2.1 p.2.2 else cs.addTrailing p.2.1 p.2.2) r.comments
  set { r with pending := [], placed := [], comments := comments }

end Read

end EnvSchema.Script
