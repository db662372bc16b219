import EnvSchema.Script.Comment
import EnvSchema.Script.Node

/-!
# The page that a script is printed on

Printing writes pieces of text one after the other. The page knows how deep the current line is
indented, whether anything stands on that line yet, and which comments have not been printed.

* `Page` — the text so far and what is needed to go on;
* `Print` — a step of printing;
* `Print.put`, `Print.line` — a piece of text, and the end of a line that has something on it;
* `Print.leading`, `Print.trailing` — the comments before and behind a place, each printed once;
* `Print.commas`, `Print.rows` — a list on one line, and one with an item on each line.
-/

namespace EnvSchema.Script

/-- **What has been printed so far.** -/
structure Page where
  text : String := ""
  /-- How many times the current line is indented. -/
  depth : Nat := 0
  /-- Whether nothing stands on the current line yet. -/
  fresh : Bool := true
  /-- The comments that have not been printed. -/
  comments : Comments := {}

/-- **A step of printing.** -/
abbrev Print := StateM Page Unit

/-- How parts of a phrase are printed. -/
abbrev Printer := Node → Print

namespace Print

/-- What one level of indentation looks like. -/
def oneIndent : String := "    "

/-- **Prints a piece of text.** The first one on a line is indented. -/
def put (s : String) : Print := modify fun p =>
  if s.isEmpty then p
  else
    let start := if p.fresh then String.join (List.replicate p.depth oneIndent) else ""
    { p with text := p.text ++ start ++ s, fresh := false }

/-- **Ends the line**, unless nothing stands on it. -/
def line : Print := modify fun p => if p.fresh then p else { p with text := p.text ++ "\n", fresh := true }

/-- A blank. -/
def space : Print := put " "

/-- Indents what a step prints once more. -/
def indented (step : Print) : Print := do
  modify fun p => { p with depth := p.depth + 1 }
  step
  modify fun p => { p with depth := p.depth - 1 }

/-- Prints what is there. -/
def option {α : Type} (o : Option α) (step : α → Print) : Print := o.forM step

/-- Prints a word and a blank if a condition holds. -/
def word (b : Bool) (s : String) : Print := if b then put (s ++ " ") else pure ()

/-! ### Comments -/

/-- Prints a comment. One to the end of the line ends it, one between brackets is followed by a
blank. -/
def comment (c : Comment) : Print := do
  match c.kind with
  | .line =>
    put ("//" ++ c.text)
    line
  | .block =>
    put ("/*" ++ c.text ++ "*/")
    space

/-- **Prints the comments before a place.** -/
def leading (place : Nat) : Print := do
  let p ← get
  let (found, rest) := p.comments.takeLeading place
  set { p with comments := rest }
  found.forM comment

/-- **Prints the comments behind a place**, after a blank. -/
def trailing (place : Nat) : Print := do
  let p ← get
  let (found, rest) := p.comments.takeTrailing place
  set { p with comments := rest }
  if !found.isEmpty then space
  found.forM comment

/-- Whether there are comments before the closing bracket that a phrase ends with. -/
def commentsInside (n : Node) : StateM Page Bool := do
  return (← get).comments.leading.any fun c => c.1 == n.hi - 1

/-! ### Lists -/

/-- Prints steps with another one between any two of them. -/
def between (separator : Print) : List Print → Print
  | [] => pure ()
  | [s] => s
  | s :: rest => do
    s
    separator
    between separator rest

/-- **A list on one line**, with commas. -/
def commas (items : List Print) : Print := between (put ", ") items

/-- **A list with an item on each line.** -/
def rows (separator : String) (items : List Print) : Print := do
  line
  indented do
    between (do put separator; line) items
  line

/-- A list on one line within angle brackets. -/
def angled (items : List Print) : Print := do
  put "<"
  commas items
  put ">"

/-- A list on one line within round brackets. -/
def bracketed (items : List Print) : Print := do
  put "("
  commas items
  put ")"

/-- A list on one line within braces, with blanks around it unless it is empty. -/
def braced (items : List Print) : Print := do
  if items.isEmpty then put "\x7b\x7d"
  else
    put "\x7b "
    commas items
    put " \x7d"

end Print

end EnvSchema.Script
