import EnvSchema.Script.Reader.Whole
import EnvSchema.Script.Walk
import EnvSchema.Text.Columns

/-!
# Modules

A module is what reading a whole source file gives: its items, with the comments beside them.

* `Module.parse` — reads a source file; faults that reading could go on after count as well;
* `Module.property` — reads a single property, to be put into a module later: its places do not
  collide with those of the module's comments.
-/

namespace EnvSchema.Script

/-- **Why a source file is not a module**, and where in the file. -/
structure Complaint where
  fault : Fault
  line : Nat
  column : Nat
  deriving Repr, DecidableEq

namespace Complaint

/-- A diagnostic with its line and column in a text that starts at a place. -/
def ofDiagnostic (start : Nat) (text : List Char) (d : Diagnostic) : Complaint :=
  let (line, column) := Text.lineAndColumn (text.take (d.span.lo - start))
  ⟨d.fault, line, column⟩

/-- The text that names the cause and the place. -/
def message (c : Complaint) : String :=
  c.fault.message ++ " (line " ++ toString c.line ++ ", column " ++ toString c.column ++ ")"

end Complaint

/-- **A source file as a tree.** -/
structure Module where
  dialect : Dialect
  /-- From the first token to the last one. -/
  span : Span
  /-- The first line, if it names an interpreter. -/
  hashbang : Option String
  items : List Node
  /-- The comments that have not been printed yet. -/
  comments : Comments
  /-- A place behind all places of the module. -/
  free : Nat

namespace Module

/-- The place where the first text starts. No place of a text is zero. -/
def firstPlace : Nat := 1

/-- A text without the mark that may stand before it. -/
def withoutMark : List Char → List Char
  | '\uFEFF' :: cs => cs
  | cs => cs

/-- **Reads a source file.** It fails with the fault that ended reading or, if reading came to the
end, with the first one that was found. -/
def parse (dialect : Dialect) (source : String) : Except Complaint Module :=
  let text := withoutMark source.toList
  let complain d := Except.error (Complaint.ofDiagnostic firstPlace text d)
  match Read.module (Reader.ofText dialect firstPlace text) with
  | .error d _ => complain d
  | .ok contents r =>
    match r.faults.getLast? with
    | some d => complain d
    | none => .ok
      { dialect := dialect, span := contents.span, hashbang := contents.hashbang
        items := contents.items, comments := r.comments, free := firstPlace + text.length + 1 }

/-- **Why a text is not a property.** -/
inductive PropertyFault where
  /-- It cannot be read. -/
  | invalid (text : String) (fault : Fault)
  /-- There is nothing in it. -/
  | missing (text : String)
  /-- It is something else. -/
  | other (text : String)
  deriving Repr, DecidableEq

/-- The text that names the fault. -/
def PropertyFault.message : PropertyFault → String
  | invalid text fault => "invalid property `" ++ text ++ "`: " ++ fault.message
  | missing text => "`" ++ text ++ "` produced no property"
  | other text => "`" ++ text ++ "` is not an object property"

/-- What stands in the brackets around an expression, if there are any. -/
def unbracketed (n : Node) : Node :=
  match n.form with
  | .paren inner => inner
  | _ => n

/-- **Reads the first property of an object** whose inside is the text. Faults that reading can go
on after do not count, and what follows the object is not read. -/
def property (m : Module) (text : String) : Except PropertyFault Node :=
  let object := "(\x7b " ++ text ++ " \x7d)"
  match Read.expression (Reader.ofText .module m.free object.toList) with
  | .error d _ => .error (.invalid text d.fault)
  | .ok expr _ =>
    match (unbracketed expr).form with
    | .object (p :: _) => .ok p
    | .object [] => .error (.missing text)
    | _ => .error (.other text)

end Module

end EnvSchema.Script
