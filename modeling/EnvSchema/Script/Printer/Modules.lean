import EnvSchema.Script.Printer.Types

/-!
# Printed modules

* `Print.importDecl`, `Print.exportNamed` — what is taken from other modules and given to them;
* `Print.moduleItem` — one item of a module: it ends its line, unless it is a block.
-/

namespace EnvSchema.Script.Print

/-- The kinds of names in an import. -/
inductive ImportKind where
  | default
  | space
  | named

/-- The kind of a name in an import. -/
def importKind (n : Node) : ImportKind :=
  match n.form with
  | .importDefault _ => .default
  | .importNamespace _ => .space
  | _ => .named

/-- **An import.** -/
def importDecl (p : Printer) (typeOnly : Bool) (phase : String) (specifiers : List Node)
    (source : Node) : Print := do
  put "import "
  word typeOnly "type"
  word (!phase.isEmpty) phase
  let named := specifiers.filter fun n => importKind n matches .named
  let whole := specifiers.filter fun n => !(importKind n matches .named)
  let groups := whole.map p ++ if named.isEmpty then [] else [braced (named.map p)]
  if !groups.isEmpty then
    commas groups
    put " from "
  p source
  put ";"

/-- A name, with the other one it is given. -/
def renamed (p : Printer) (typeOnly : Bool) (first : Node) (second : Option Node) : Print := do
  word typeOnly "type"
  p first
  option second fun s => do
    put " as "
    p s

/-- **Names that are exported.** -/
def exportNamed (p : Printer) (typeOnly : Bool) (specifiers : List Node) (source : Option Node) :
    Print := do
  put "export "
  word typeOnly "type"
  let isSpace (n : Node) : Bool := match n.form with
    | .exportNamespace _ => true
    | _ => false
  match specifiers with
  | [s] => if isSpace s then p s else braced [p s]
  | l => braced (l.map p)
  option source fun s => do
    put " from "
    p s
  put ";"

/-- A name for a module or for a name in one. -/
def importEquals (p : Printer) (isExport typeOnly : Bool) (name target : Node) : Print := do
  word isExport "export"
  put "import "
  word typeOnly "type"
  p name
  put " = "
  p target
  put ";"

/-- Whether a phrase is an import or an export. -/
def isModuleDecl (n : Node) : Bool :=
  match n.form with
  | .importDecl .. | .exportDecl _ | .exportNamed .. | .exportDefault _ | .exportDefaultExpr _
  | .exportAll .. | .importEquals .. | .exportEquals _ | .exportAsNamespace _ => true
  | _ => false

/-- **One item of a module.** -/
def moduleItem (p : Printer) (n : Node) : Print := do
  leading n.lo
  if isModuleDecl n then
    p n
    trailing n.hi
    line
  else
    stmt p n
    trailing n.hi

end EnvSchema.Script.Print
