import EnvSchema.Script.Printer.Expressions

/-!
# Printed functions and classes

* `Print.functionRest` — a function from its parameters on;
* `Print.functionExpr`, `Print.functionDecl` — a function as an expression or declaration;
* `Print.classRest` — a class from what it extends on;
* `Print.method`, `Print.field`, `Print.constructor` — the members of a class.
-/

namespace EnvSchema.Script.Print

/-- The parts of a function. -/
structure FunctionParts where
  isAsync : Bool
  isGenerator : Bool
  params : List Node
  body : Option Node
  typeParams : Option Node
  returnType : Option Node

/-- The parts of a function that a phrase is. -/
def FunctionParts.ofNode? (n : Node) : Option FunctionParts :=
  match n.form with
  | .function isAsync isGenerator params body typeParams returnType =>
    some ⟨isAsync, isGenerator, params, body, typeParams, returnType⟩
  | _ => none

/-- The parameters of a function, with the type of what it returns. -/
def signature (p : Printer) (f : FunctionParts) : Print := do
  option f.typeParams p
  bracketed (f.params.map p)
  typed p f.returnType

/-- **A function from its parameters on.** -/
def functionRest (p : Printer) (f : FunctionParts) : Print := do
  signature p f
  match f.body with
  | some b =>
    space
    p b
  | none => put ";"

/-- **A function as an expression.** -/
def functionExpr (p : Printer) (name : Option Node) (f : FunctionParts) : Print := do
  word f.isAsync "async"
  put (if f.isGenerator then "function*" else "function")
  option name fun i => do
    space
    p i
  functionRest p f

/-- **A function as a declaration.** -/
def functionDecl (p : Printer) (isDeclare : Bool) (name : Node) (f : FunctionParts) : Print := do
  word isDeclare "declare"
  word f.isAsync "async"
  put (if f.isGenerator then "function* " else "function ")
  p name
  functionRest p f

/-- A method of an object. -/
def methodProperty (p : Printer) (key : Node) (f : FunctionParts) : Print := do
  word f.isAsync "async"
  if f.isGenerator then put "*"
  p key
  space
  functionRest p f

/-- A function that is called when a property of an object is read or written. -/
def accessorProperty (p : Printer) (word : String) (key : Node) (params : List Node)
    (body : Option Node) : Print := do
  put (word ++ " ")
  p key
  space
  bracketed (params.map (pattern p))
  space
  option body p

/-! ### Classes -/

/-- The members of a class within braces. -/
def members (p : Printer) (n : Node) (items : List Node) : Print := do
  put "\x7b"
  rows "" (items.map p)
  leading (n.hi - 1)
  put "\x7d"

/-- **A class from what it extends on.** -/
def classRest (p : Printer) (n : Node) (items : List Node) (superclass superTypeArgs : Option Node)
    (implemented : List Node) : Print := do
  option superclass fun s => do
    put " extends "
    expr p s
    option superTypeArgs p
  if !implemented.isEmpty then
    put " implements "
    commas (implemented.map p)
  space
  members p n items

/-- **A class** behind the modifiers before its name. -/
def classPhrase (p : Printer) (isDeclare : Bool) (name : Option Node) (body : Node) : Print := do
  leading body.lo
  match body.form with
  | .classBody isAbstract items superclass typeParams superTypeArgs implemented =>
    word isDeclare "declare"
    word isAbstract "abstract"
    put "class"
    option name fun i => do
      space
      p i
    option typeParams p
    classRest p body items superclass superTypeArgs implemented
  | _ => p body

/-- Who may use a member. -/
def access (m : Modifiers) : Print := option m.access fun a => put (a ++ " ")

/-- **A method of a class.** -/
def method (p : Printer) (kind : MethodKind) (m : Modifiers) (key : Node) (f : FunctionParts) :
    Print := do
  leading key.lo
  access m
  word m.isStatic "static"
  word m.isAbstract "abstract"
  word m.isOverride "override"
  match kind with
  | .method =>
    word f.isAsync "async"
    if f.isGenerator then put "*"
  | .getter => put "get "
  | .setter => put "set "
  p key
  if m.isOptional then put "?"
  functionRest p f

/-- **A field of a class.** -/
def field (p : Printer) (isAccessor : Bool) (m : Modifiers) (key : Node)
    (value type : Option Node) : Print := do
  leading key.lo
  word m.isDeclare "declare"
  access m
  word m.isStatic "static"
  word m.isAbstract "abstract"
  word m.isOverride "override"
  word m.isReadonly "readonly"
  word isAccessor "accessor"
  p key
  if m.isOptional then put "?"
  if m.isDefinite then put "!"
  typed p type
  assigned p value
  put ";"

/-- **The function that constructs what belongs to a class.** -/
def constructor (p : Printer) (m : Modifiers) (params : List Node) (body : Option Node) : Print := do
  access m
  put "constructor"
  bracketed (params.map p)
  match body with
  | some b => p b
  | none => put ";"

/-- A parameter that is a field as well. -/
def paramProperty (p : Printer) (m : Modifiers) (param : Node) : Print := do
  access m
  word m.isOverride "override"
  word m.isReadonly "readonly"
  p param

end EnvSchema.Script.Print
