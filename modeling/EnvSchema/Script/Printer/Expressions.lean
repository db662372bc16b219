import EnvSchema.Script.Printer.Page

/-!
# Printed expressions

How each kind of expression, pattern and element is printed, given how its parts are. Comments are
printed before every phrase, and behind it only where it stands as an expression or as a pattern.

* `Print.expr` — a phrase in the place of an expression;
* `Print.literal`, `Print.object`, `Print.array`, `Print.template` — values that are written down;
* `Print.call`, `Print.construct`, `Print.member`, `Print.chain` — what is done with a value;
* `Print.pattern`, `Print.binding` — what a value is bound to;
* `Print.element` — an element.
-/

namespace EnvSchema.Script.Print

/-- **A phrase in the place of an expression or pattern**, with the comments behind it. -/
def expr (p : Printer) (n : Node) : Print := do
  p n
  trailing n.hi

/-- A type behind a colon, if there is one. -/
def typed (p : Printer) (type : Option Node) : Print :=
  option type fun t => do
    put ": "
    p t

/-- A value behind a mark, if there is one. -/
def assigned (p : Printer) (value : Option Node) : Print :=
  option value fun v => do
    put " = "
    expr p v

/-! ### Values -/

/-- A number before a dot. Digits alone would take the dot as their own. -/
def numberBeforeDot (raw : String) : Print := do
  put raw
  let cs := raw.toList
  if cs.all Char.isDigit && !(1 < cs.length && cs.head? == some '0') then put "."

/-- **The items of an array**, one on each line. Behind a last place that is empty a comma is
needed. -/
def array (p : Printer) (elems : List (Option Node)) : Print := do
  put "["
  if !elems.isEmpty then
    let items := elems.map fun e => option e (expr p)
    let last := elems.getLast?.bind id
    rows "," (if last.isNone then items.dropLast ++ [put ", "] else items)
  put "]"

/-- **The properties of an object**, one on each line. -/
def object (p : Printer) (n : Node) (props : List Node) : Print := do
  put "\x7b"
  if props.isEmpty then
    if ← commentsInside n then line
  else rows "," (props.map p)
  put "\x7d"

/-- **A template**: its pieces with values between them. -/
def template (p : Printer) (values pieces : List Node) : Print := do
  put "`"
  go pieces values
  put "`"
where
  /-- Pieces and values in turn. -/
  go : List Node → List Node → Print
    | [], _ => pure ()
    | q :: qs, vs => do
      p q
      match vs with
      | [] => go qs []
      | v :: vs =>
        put "$\x7b"
        expr p v
        put "\x7d"
        go qs vs

/-- The text of a piece of a template, where each line ends with a line feed. -/
def templatePiece (raw : String) : String := String.ofList (go raw.toList)
where
  /-- The text with the ends of its lines. -/
  go : List Char → List Char
    | '\r' :: '\n' :: cs => '\n' :: go cs
    | '\r' :: cs => '\n' :: go cs
    | c :: cs => c :: go cs
    | [] => []

/-! ### What is done with values -/

/-- What is called, constructed or looked into. -/
def target (p : Printer) (n : Node) : Print := expr p n

/-- Whether an operator needs a blank before its operand to be told from a longer operator. -/
def needsBlank (op : String) (arg : Node) : Bool :=
  ["typeof", "void", "delete"].contains op ||
    match arg.form with
    | .update op' true _ => op' == op ++ op
    | .unary op' _ => (op == "+" || op == "-") && op' == op
    | _ => false

/-- An operator before its operand. -/
def unary (p : Printer) (op : String) (arg : Node) : Print := do
  put op
  if needsBlank op arg then space
  expr p arg

/-- Two operands with an operator between them. -/
def binary (p : Printer) (op : String) (left right : Node) : Print := do
  expr p left
  put (" " ++ op ++ " ")
  expr p right

/-- One of two values. -/
def conditional (p : Printer) (test yes no : Node) : Print := do
  expr p test
  put " ? "
  expr p yes
  put " : "
  expr p no

/-- What is looked up behind a dot, or in brackets. -/
def memberKey (p : Printer) (key : Node) : Print := do
  match key.form with
  | .computed _ => p key
  | _ =>
    leading (key.lo - 1)
    put "."
    p key

/-- **A member of an object.** -/
def member (p : Printer) (obj key : Node) : Print := do
  match obj.form, key.form with
  | .number _, .computed _ => p obj
  | .number raw, _ =>
    leading obj.lo
    numberBeforeDot raw
  | _, _ => target p obj
  memberKey p key

/-- What a function is given. -/
def arguments (p : Printer) (args : List Node) : Print := bracketed (args.map (expr p))

/-- **A call.** -/
def call (p : Printer) (callee : Node) (args : List Node) (typeArgs : Option Node) : Print := do
  target p callee
  option typeArgs p
  arguments p args

/-- **A construction.** -/
def construct (p : Printer) (callee : Node) (args : Option (List Node)) (typeArgs : Option Node) :
    Print := do
  put "new "
  expr p callee
  option typeArgs p
  option args (arguments p)

/-- **A chain that ends early** where there is no value. -/
def chain (p : Printer) (isOptional : Bool) (base : Node) : Print := do
  match base.form with
  | .member obj key =>
    target p obj
    if isOptional then put "?."
    else
      match key.form with
      | .computed _ => pure ()
      | _ => put "."
    p key
  | .call callee args _ =>
    target p callee
    if isOptional then put "?."
    arguments p args
  | _ => p base

/-- A value that a generator gives. -/
def yield (p : Printer) (isDelegate : Bool) (arg : Option Node) : Print := do
  put (if isDelegate then "yield*" else "yield")
  option arg fun a => do
    space
    expr p a

/-- **An arrow function.** A body that is an expression is indented. -/
def arrow (p : Printer) (isAsync : Bool) (params : List Node) (body : Node)
    (typeParams returnType : Option Node) : Print := do
  word isAsync "async"
  option typeParams p
  bracketed (params.map (expr p))
  option returnType fun t => do
    put ": "
    p t
    space
  put "=>"
  match body.form with
  | .block _ => p body
  | _ => indented (expr p body)

/-! ### Patterns -/

/-- A phrase in the place of a pattern. -/
def pattern (p : Printer) (n : Node) : Print := expr p n

/-- **A name that is bound**, or another phrase that may be left out and has a type. -/
def binding (p : Printer) (name : Print) (isOptional : Bool) (type : Option Node) : Print := do
  name
  if isOptional then put "?"
  typed p type

/-- A pattern of items in order. -/
def arrayPattern (p : Printer) (elems : List (Option Node)) : Print := do
  put "["
  commas (elems.map fun e => option e (pattern p))
  if !elems.isEmpty && (elems.getLast?.bind id).isNone then put ", "
  put "]"

/-! ### Elements -/

/-- An attribute of an element. -/
def elementAttribute (p : Printer) (n : Node) : Print := do
  match n.form with
  | .spread _ =>
    put "\x7b"
    p n
    put "\x7d"
  | _ => p n

/-- The opening tag of an element. -/
def elementOpening (p : Printer) (name : Node) (attrs : List Node) (isSelfClosing : Bool)
    (typeArgs : Option Node) : Print := do
  put "<"
  p name
  option typeArgs p
  attrs.forM fun a => do
    space
    elementAttribute p a
  put (if isSelfClosing then "/>" else ">")

/-- **An element** with its tags. -/
def element (p : Printer) (opening : Node) (children : List Node) (closing : Option Node) : Print := do
  p opening
  children.forM p
  option closing p

end EnvSchema.Script.Print
