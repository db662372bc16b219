import EnvSchema.Data.Toml.Fault

/-!
# Reading a document, character by character

A reader takes characters from the front of what is left of a document, or stops with a fault. A
reader that has seen what it reads cannot be taken back: its faults are final. Until then another
reader may be tried at the same place.

* `Read` — readers;
* `softly`, `certain` — trying a reader, and making its faults final;
* `called`, `wanting`, `checked` — what is said of a fault;
* `blanks`, `gaps`, `lineEnd` — what may stand between the things that count.
-/

namespace EnvSchema.Data.Toml

/-- **Where and why a reader stopped.** -/
structure Stop where
  /-- No other reader may be tried. -/
  isFinal : Bool := false
  label : Option Label := none
  expected : List Expected := []
  cause : Option Cause := none
  /-- How many characters were left. -/
  left : Nat
  deriving Repr, DecidableEq

/-- **A reader of characters.** -/
abbrev Read := StateT (List Char) (Except Stop)

namespace Read

variable {α β : Type}

/-- Stops at what is left. -/
def stop : Read α := fun cs => .error { left := cs.length }

/-- Tries a reader, and takes nothing if it stops. -/
def softly (read : Read α) : Read (Option α) := fun cs =>
  match read cs with
  | .ok (a, cs) => .ok (some a, cs)
  | .error s => if s.isFinal then .error s else .ok (none, cs)

/-- The first reader, or the second one where the first stops. -/
def orElse (first second : Read α) : Read α := do
  match ← softly first with
  | some a => return a
  | none => second

/-- Changes what is said where a reader stops. -/
def saying (change : Stop → Stop) (read : Read α) : Read α := fun cs =>
  match read cs with
  | .ok r => .ok r
  | .error s => .error (change s)

/-- A reader after which nothing can be taken back. -/
def certain (read : Read α) : Read α := saying (fun s => { s with isFinal := true }) read

/-- Names what is read, unless a part of it that was being read has been named. -/
def called (label : Label) (read : Read α) : Read α :=
  saying (fun s => { s with label := s.label.or (some label) }) read

/-- Names what could come next. -/
def wanting (expected : List Expected) (read : Read α) : Read α :=
  saying (fun s => { s with expected := s.expected ++ expected }) read

/-- Refuses some of what is read, where reading it started. -/
def checked (check : α → Except Cause β) (read : Read α) : Read β := fun cs =>
  match read cs with
  | .error s => .error s
  | .ok (a, rest) =>
    match check a with
    | .ok b => .ok (b, rest)
    | .error c => .error { cause := some c, left := cs.length }

/-- What is read, and where it is written. -/
def spanned (read : Read α) : Read (α × Span) := fun cs =>
  match read cs with
  | .error s => .error s
  | .ok (a, rest) => .ok ((a, ⟨cs.length, rest.length⟩), rest)

/-- The next character. -/
def peek : Read (Option Char) := fun cs => .ok (cs.head?, cs)

/-- What is left. -/
def left : Read (List Char) := get

/-- The next character, if it is one of some. -/
def oneOf (p : Char → Bool) : Read Char
  | c :: cs => if p c then .ok (c, cs) else .error { left := cs.length + 1 }
  | [] => .error { left := 0 }

/-- The next character, which has to be the given one. -/
def char (c : Char) : Read Unit := do let _ ← oneOf (· == c)

/-- The next characters, which have to be the given ones. -/
def literal (text : String) : Read Unit := fun cs =>
  if text.toList.isPrefixOf cs then .ok ((), cs.drop text.length) else .error { left := cs.length }

/-- All characters that come next and are some of those asked for. -/
def taking (p : Char → Bool) : Read (List Char) := fun cs => .ok (cs.takeWhile p, cs.dropWhile p)

/-- Reads as often as it can be done; the number bounds the times. -/
def many (read : Read α) : Nat → Read (List α)
  | 0 => return []
  | n + 1 => do
    match ← softly read with
    | none => return []
    | some a => return a :: (← many read n)

/-- What is read one time or more, with a reader of what stands between. A separator behind which
nothing can be read is not taken. -/
def separated (separator : Read Unit) (read : Read α) : Read (List α) := do
  let first ← read
  let rest ← many (do separator; read) (← left).length
  return first :: rest

end Read

open Read

/-! ### What stands between -/

/-- Whether a character is a blank within a line. -/
def isBlank (c : Char) : Bool := c == ' ' || c == '\t'

/-- Whether a character may stand in a comment or in a string: it is none of those that only control
a device, or it is a tab. -/
def isVisible (c : Char) : Bool := c == '\t' || (0x20 ≤ c.toNat && c.toNat != 0x7F)

/-- Passes over blanks. -/
def blanks : Read Unit := modify (·.dropWhile isBlank)

/-- What follows the end of a line, if one comes next. -/
def behindNewline? : List Char → Option (List Char)
  | '\n' :: cs => some cs
  | '\r' :: '\n' :: cs => some cs
  | _ => none

/-- The end of a line. -/
def newline : Read Unit := fun cs =>
  match behindNewline? cs with
  | some cs => .ok ((), cs)
  | none => .error { left := cs.length }

/-- A comment. -/
def comment : Read Unit := do
  char '#'
  let _ ← taking isVisible

/-- The end of a line or of the document. -/
def newlineOrEnd : Read Unit := do
  if (← peek).isSome then newline

/-- What may follow something on its line. -/
def lineEnd : Read Unit := do
  blanks
  let _ ← softly comment
  newlineOrEnd

/-- Blanks, ends of lines or a comment. -/
def gap : Read Unit := do
  match ← peek with
  | some '#' => comment
  | _ => if (← softly newline).isNone then let _ ← oneOf isBlank

/-- Passes over blanks, comments and ends of lines. -/
def gaps : Read Unit := do let _ ← many gap (← left).length

end EnvSchema.Data.Toml
