import EnvSchema.Script.Printer.Statements

/-!
# Printed types

How each kind of type, of member of a type and of declaration of a type is printed, given how its
parts are.
-/

namespace EnvSchema.Script.Print

/-- A parameter of a type. -/
def typeParam (p : Printer) (isIn isOut isConst : Bool) (name : Node) (bound default : Option Node) :
    Print := do
  word isConst "const"
  word isIn "in"
  word isOut "out"
  p name
  option bound fun b => do
    put " extends "
    p b
  option default fun d => do
    put " = "
    p d

/-- The type of a function, behind what comes before its parameters. -/
def functionType (p : Printer) (params : List Node) (typeParams : Option Node) (result : Node) :
    Print := do
  option typeParams p
  bracketed (params.map p)
  put " => "
  p result

/-- A choice of type. -/
def conditionalType (p : Printer) (check bound yes no : Node) : Print := do
  p check
  put " extends "
  p bound
  put " ? "
  p yes
  put " : "
  p no

/-- What a mapped type does to a modifier, written before or behind it. -/
def change (c : Option Change) (word : String) : Print :=
  option c fun c =>
    match c with
    | .given => put word
    | .plus => put ("+" ++ word)
    | .minus => put ("-" ++ word)

/-- **A type whose members are given by the members of another one.** -/
def mappedType (p : Printer) (readonly : Option Change) (param : Node) (nameType : Option Node)
    (optional : Option Change) (type : Option Node) : Print := do
  put "\x7b"
  line
  indented do
    change readonly "readonly "
    put "["
    match param.form with
    | .typeParam _ _ _ name bound _ =>
      p name
      option bound fun b => do
        put " in "
        p b
    | _ => p param
    option nameType fun t => do
      put " as "
      p t
    put "]"
    change optional "?"
    put ": "
    option type p
    put ";"
    line
  put "\x7d"

/-- What a function finds out about one of its parameters. -/
def typePredicate (p : Printer) (asserts : Bool) (name : Node) (type : Option Node) : Print := do
  word asserts "asserts"
  p name
  option type fun t => do
    put " is "
    p t

/-- A type of another module. -/
def importType (p : Printer) (source : Node) (qualifier typeArgs : Option Node) : Print := do
  put "import("
  p source
  put ")"
  option qualifier fun q => do
    put "."
    p q
  option typeArgs p

/-- The members of a type within braces, each ended by a semicolon. -/
def typeMembers (p : Printer) (items : List Node) : Print := do
  put "\x7b"
  rows "" (items.map fun n => do p n; put ";")
  put "\x7d"

/-- The key of a member of a type. -/
def signatureKey (p : Printer) (isComputed : Bool) (key : Node) : Print := do
  if isComputed then
    put "["
    expr p key
    put "]"
  else expr p key

/-- A member of a type that is a function. -/
def methodSignature (p : Printer) (isComputed isOptional : Bool) (key : Node) (params : List Node)
    (type typeParams : Option Node) : Print := do
  signatureKey p isComputed key
  if isOptional then put "?"
  option typeParams p
  bracketed (params.map p)
  typed p type

/-- A member of a type by which it can be called. -/
def callSignature (p : Printer) (params : List Node) (type typeParams : Option Node) : Print := do
  option typeParams p
  bracketed (params.map p)
  option type fun t => do
    put " : "
    p t

/-- A member of a type by which it can be constructed. -/
def constructSignature (p : Printer) (params : List Node) (type typeParams : Option Node) :
    Print := do
  put "new"
  option typeParams p
  bracketed (params.map p)
  typed p type

/-- A member of a type that stands for all members. -/
def indexSignature (p : Printer) (isReadonly isStatic : Bool) (params : List Node)
    (type : Option Node) : Print := do
  word isStatic "static"
  word isReadonly "readonly"
  put "["
  commas (params.map p)
  put "]"
  typed p type

/-! ### Declarations -/

/-- **An interface.** -/
def interface (p : Printer) (isDeclare : Bool) (name : Node) (typeParams : Option Node)
    (parents : List Node) (body : Node) : Print := do
  word isDeclare "declare"
  put "interface "
  p name
  option typeParams p
  if !parents.isEmpty then
    put " extends "
    commas (parents.map p)
  space
  p body

/-- **A name for a type.** -/
def typeAlias (p : Printer) (isDeclare : Bool) (name : Node) (typeParams : Option Node)
    (type : Node) : Print := do
  word isDeclare "declare"
  put "type "
  p name
  option typeParams p
  put " = "
  p type
  put ";"

/-- **A type of named values.** -/
def enum (p : Printer) (isDeclare isConst : Bool) (name : Node) (items : List Node) : Print := do
  word isDeclare "declare"
  word isConst "const"
  put "enum "
  p name
  put " \x7b"
  rows "," (items.map p)
  put "\x7d"

/-- The names of a namespace within another one, and its body. -/
def namespaceNames : Nat → Node → List Node × Node
  | 0, n => ([], n)
  | fuel + 1, n =>
    match n.form with
    | .namespaceInner _ _ name body =>
      let (names, inner) := namespaceNames fuel body
      (name :: names, inner)
    | _ => ([], n)

/-- **A namespace.** -/
def namespaceDecl (p : Printer) (depth : Nat) (isDeclare isGlobal : Bool) (name : Node)
    (body : Option Node) : Print := do
  word isDeclare "declare"
  if isGlobal then put "global"
  else
    match name.form with
    | .string .. => put "module "
    | _ => put "namespace "
    p name
  option body fun b => do
    let (names, inner) := namespaceNames depth b
    names.forM fun n => do
      put "."
      p n
    space
    p inner

end EnvSchema.Script.Print
