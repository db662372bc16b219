import EnvSchema.Script.Printer.Functions

/-!
# Printed statements

* `Print.stmt` — a phrase in the place of a statement: it ends its line, unless it is a block;
* `Print.block` — statements between braces;
* `Print.variableList` — a declaration of variables;
* the other definitions print one kind of statement each.
-/

namespace EnvSchema.Script.Print

/-- Whether a phrase is a block. -/
def isBlock (n : Node) : Bool :=
  match n.form with
  | .block _ => true
  | _ => false

/-- **A phrase in the place of a statement.** It ends its line, unless it is a block. -/
def stmt (p : Printer) (n : Node) : Print := do
  p n
  match n.form with
  | .block _ => pure ()
  | .varDecl .. | .usingDecl .. =>
    put ";"
    trailing n.hi
    line
  | _ =>
    trailing n.hi
    line

/-- **Statements between braces.** Comments before the closing brace are printed at its depth. -/
def block (p : Printer) (n : Node) (body : List Node) : Print := do
  put "\x7b"
  if body.isEmpty then
    if ← commentsInside n then line
  else rows "" (body.map (stmt p))
  leading (n.hi - 1)
  put "\x7d"

/-- **A declaration of variables**, without what ends it. -/
def variableList (p : Printer) (word : String) (decls : List Node) : Print := do
  put (word ++ " ")
  commas (decls.map p)

/-- A condition in brackets, behind a keyword. -/
def condition (p : Printer) (before : String) (test : Node) (after : String) : Print := do
  put before
  expr p test
  put after

/-- A choice between two statements. -/
def ifStatement (p : Printer) (test yes : Node) (no : Option Node) : Print := do
  condition p "if (" test ") "
  stmt p yes
  option no fun n => do
    if isBlock yes then space
    put "else "
    stmt p n

/-- A jump, perhaps to a label. -/
def jump (p : Printer) (word : String) (label : Option Node) : Print := do
  put word
  option label fun l => do
    space
    p l
  put ";"

/-- A choice by value. -/
def switch (p : Printer) (subject : Node) (cases : List Node) : Print := do
  condition p "switch(" subject ")\x7b"
  rows "" (cases.map p)
  put "\x7d"

/-- One case of a choice by value. -/
def switchCase (p : Printer) (test : Option Node) (body : List Node) : Print := do
  match test with
  | some t =>
    put "case "
    expr p t
  | none => put "default"
  put ":"
  if !body.isEmpty then
    line
    indented (between line (body.map (stmt p)))

/-- A statement whose errors are handled. -/
def tryStatement (p : Printer) (body : Node) (handler finalizer : Option Node) : Print := do
  put "try "
  p body
  option handler fun h => do
    space
    p h
  option finalizer fun f => do
    put " finally"
    p f

/-- The handler of an error. -/
def catchClause (p : Printer) (param : Option Node) (body : Node) : Print := do
  put "catch "
  option param fun q => do
    put "("
    pattern p q
    put ")"
  space
  p body

/-- A loop with its condition at the end. -/
def doWhile (p : Printer) (test body : Node) : Print := do
  put "do "
  stmt p body
  condition p "while (" test ")"

/-- The start of a loop: a declaration or an expression. -/
def loopStart (p : Printer) (n : Node) : Print :=
  match n.form with
  | .varDecl .. | .usingDecl .. => p n
  | _ => expr p n

/-- A counted loop. -/
def forLoop (p : Printer) (init test update : Option Node) (body : Node) : Print := do
  put "for("
  option init (loopStart p)
  put ";"
  option test fun t => do
    space
    expr p t
  put ";"
  option update fun u => do
    space
    expr p u
  put ")"
  stmt p body

/-- A loop over the keys of an object or the values of a sequence. -/
def forEach (p : Printer) (start word : String) (left right body : Node) : Print := do
  put start
  loopStart p left
  put (" " ++ word ++ " ")
  expr p right
  put ")"
  stmt p body

end EnvSchema.Script.Print
