import EnvSchema.Script.Span

/-!
# The tree of a script

A script is a tree of *nodes*. A node is a place in the text together with a *form*: the kind of
phrase it is and the parts it is made of. All nodes are of one type, whatever phrase they stand for,
so that a walk over a tree is written once.

* `Form` — the kinds of phrases, over the type of their parts;
* `Node` — a form whose parts are nodes, with its place;
* `Form.parts` — the parts in the order in which a walk visits them. The order is fixed for each
  form and not always that of the text: a class is visited before what it extends, the condition of
  a `do` loop before its body, the values in a template before its texts.
-/

namespace EnvSchema.Script

/-- How a declaration of variables begins. -/
inductive VarKind where
  /-- `var`. -/
  | hoisted
  /-- `let`. -/
  | blockScoped
  /-- `const`. -/
  | constant
  deriving Repr, DecidableEq, Inhabited

/-- What a method is for. -/
inductive MethodKind where
  | method
  | getter
  | setter
  deriving Repr, DecidableEq, Inhabited

/-- The modifiers of a class member. -/
structure Modifiers where
  /-- Who may use it: `public`, `protected` or `private`. -/
  access : Option String := none
  isStatic : Bool := false
  isAbstract : Bool := false
  isOptional : Bool := false
  isOverride : Bool := false
  isReadonly : Bool := false
  isDeclare : Bool := false
  isDefinite : Bool := false
  deriving Repr, DecidableEq, Inhabited

/-- What a mapped type does to a modifier of the members. -/
inductive Change where
  /-- Gives it. -/
  | given
  /-- Gives it, written with a plus. -/
  | plus
  /-- Takes it away. -/
  | minus
  deriving Repr, DecidableEq, Inhabited

/-- **The kinds of phrases**, over the type of their parts. -/
inductive Form (α : Type) where
  /-- A phrase that could not be read. -/
  | invalid
  -- names, keys and literals
  | ident (name : String) (isOptional : Bool)
  | privateName (name : String)
  | computed (expr : α)
  | string (value raw : String)
  | number (raw : String)
  | bigint (raw : String)
  | bool (value : Bool)
  | null
  | regexp (body flags : String)
  | elementText (value raw : String)
  -- expressions
  | this
  | super
  | importWord (phase : String)
  | array (elems : List (Option α))
  | object (props : List α)
  | spread (expr : α)
  | functionExpr (name : Option α) (function : α)
  | classExpr (name : Option α) (body : α)
  | arrow (isAsync : Bool) (params : List α) (body : α) (typeParams returnType : Option α)
  | unary (op : String) (arg : α)
  | update (op : String) (isPrefix : Bool) (arg : α)
  | binary (op : String) (left right : α)
  | assign (op : String) (left right : α)
  | conditional (test yes no : α)
  | member (object key : α)
  | superMember (object key : α)
  | call (callee : α) (args : List α) (typeArgs : Option α)
  | new (callee : α) (args : Option (List α)) (typeArgs : Option α)
  | optionalChain (isOptional : Bool) (base : α)
  | sequence (exprs : List α)
  | template (exprs pieces : List α)
  | templatePiece (raw : String) (cooked : Option String) (isLast : Bool)
  | taggedTemplate (tag : α) (typeArgs : Option α) (template : α)
  | yield (isDelegate : Bool) (arg : Option α)
  | await (arg : α)
  | metaProperty (isNewTarget : Bool)
  | paren (expr : α)
  -- elements
  | element (opening : α) (children : List α) (closing : Option α)
  | elementOpening (name : α) (attrs : List α) (isSelfClosing : Bool) (typeArgs : Option α)
  | elementClosing (name : α)
  | fragment (children : List α)
  | elementMember (object key : α)
  | elementNamespaced (space name : α)
  | elementAttribute (name : α) (value : Option α)
  | container (expr : α)
  | emptyExpr
  | spreadChild (expr : α)
  -- expressions with types
  | typeAssertion (expr type : α)
  | constAssertion (expr : α)
  | asType (expr type : α)
  | satisfies (expr type : α)
  | nonNull (expr : α)
  | instantiation (expr typeArgs : α)
  -- properties of objects
  | shorthand (name : α)
  | keyValue (key value : α)
  | assignProperty (key value : α)
  | getterProperty (key : α) (returnType body : Option α)
  | setterProperty (key : α) (this : Option α) (param : α) (body : Option α)
  | methodProperty (key function : α)
  -- patterns
  | binding (name : String) (isOptional : Bool) (type : Option α)
  | arrayPattern (elems : List (Option α)) (isOptional : Bool) (type : Option α)
  | objectPattern (props : List α) (isOptional : Bool) (type : Option α)
  | restPattern (arg : α) (type : Option α)
  | assignPattern (left right : α)
  | keyValuePattern (key value : α)
  | shorthandPattern (key : α) (value : Option α)
  -- functions and classes
  | function (isAsync isGenerator : Bool) (params : List α) (body typeParams returnType : Option α)
  | param (pattern : α)
  | paramProperty (modifiers : Modifiers) (param : α)
  | classBody (isAbstract : Bool) (members : List α) (superclass : Option α)
      (typeParams superTypeArgs : Option α) (implemented : List α)
  | constructor (modifiers : Modifiers) (key : α) (params : List α) (body : Option α)
  | method (kind : MethodKind) (modifiers : Modifiers) (key function : α)
  | field (isAccessor : Bool) (modifiers : Modifiers) (key : α) (value type : Option α)
  | staticBlock (body : α)
  | emptyMember
  -- statements
  | block (body : List α)
  | empty
  | debugger
  | exprStatement (expr : α)
  | withStatement (object body : α)
  | returnStatement (arg : Option α)
  | labeled (label body : α)
  | breakStatement (label : Option α)
  | continueStatement (label : Option α)
  | ifStatement (test yes : α) (no : Option α)
  | switch (subject : α) (cases : List α)
  | switchCase (test : Option α) (body : List α)
  | throwStatement (arg : α)
  | tryStatement (block : α) (handler finalizer : Option α)
  | catchClause (param : Option α) (body : α)
  | whileLoop (test body : α)
  | doWhile (test body : α)
  | forLoop (init test update : Option α) (body : α)
  | forIn (left right body : α)
  | forOf (isAwait : Bool) (left right body : α)
  | varDecl (kind : VarKind) (isDeclare : Bool) (decls : List α)
  | usingDecl (isAwait : Bool) (decls : List α)
  | declarator (pattern : α) (init : Option α) (isDefinite : Bool)
  | functionDecl (isDeclare : Bool) (name function : α)
  | classDecl (isDeclare : Bool) (name body : α)
  -- modules
  | importDecl (typeOnly : Bool) (phase : String) (specifiers : List α) (source : α)
  | importDefault (name : α)
  | importNamespace (name : α)
  | importNamed (typeOnly : Bool) (name : α) (imported : Option α)
  | exportDecl (decl : α)
  | exportNamed (typeOnly : Bool) (specifiers : List α) (source : Option α)
  | exportNamespace (name : α)
  | exportName (typeOnly : Bool) (name : α) (exported : Option α)
  | exportDefault (decl : α)
  | exportDefaultExpr (expr : α)
  | exportAll (typeOnly : Bool) (source : α)
  | importEquals (isExport typeOnly : Bool) (name target : α)
  | externalModule (source : α)
  | exportEquals (expr : α)
  | exportAsNamespace (name : α)
  -- declarations of types
  | interface (isDeclare : Bool) (name : α) (typeParams : Option α) (parents : List α) (body : α)
  | interfaceBody (members : List α)
  | typeAlias (isDeclare : Bool) (name : α) (typeParams : Option α) (type : α)
  | enum (isDeclare isConst : Bool) (name : α) (members : List α)
  | enumMember (name : α) (init : Option α)
  | namespaceDecl (isDeclare isGlobal : Bool) (name : α) (body : Option α)
  | namespaceBlock (body : List α)
  | namespaceInner (isDeclare isGlobal : Bool) (name body : α)
  | withTypeArgs (expr : α) (typeArgs : Option α)
  -- types
  | colonType (type : α)
  | typeParams (params : List α)
  | typeParam (isIn isOut isConst : Bool) (name : α) (bound default : Option α)
  | typeArgs (args : List α)
  | keywordType (word : String)
  | thisType
  | functionType (params : List α) (typeParams : Option α) (returnType : α)
  | constructorType (isAbstract : Bool) (params : List α) (typeParams : Option α) (returnType : α)
  | typeReference (name : α) (typeArgs : Option α)
  | qualifiedName (left right : α)
  | typeQuery (name : α) (typeArgs : Option α)
  | typeLiteral (members : List α)
  | arrayType (elem : α)
  | tupleType (elems : List α)
  | tupleElement (label : Option α) (type : α)
  | optionalType (type : α)
  | restType (type : α)
  | unionType (types : List α)
  | intersectionType (types : List α)
  | conditionalType (check bound yes no : α)
  | inferType (param : α)
  | parenType (type : α)
  | typeOperator (op : String) (type : α)
  | indexedAccess (object index : α)
  | mappedType (readonly : Option Change) (param : α) (nameType : Option α)
      (optional : Option Change) (type : Option α)
  | literalType (literal : α)
  | templateType (types pieces : List α)
  | typePredicate (asserts : Bool) (name : α) (type : Option α)
  | importType (source : α) (qualifier typeArgs : Option α)
  -- members of types
  | propertySignature (isReadonly isComputed isOptional : Bool) (key : α) (type : Option α)
  | getterSignature (isComputed : Bool) (key : α) (type : Option α)
  | setterSignature (isComputed : Bool) (key param : α)
  | methodSignature (isComputed isOptional : Bool) (key : α) (params : List α)
      (type typeParams : Option α)
  | callSignature (params : List α) (type typeParams : Option α)
  | constructSignature (params : List α) (type typeParams : Option α)
  | indexSignature (isReadonly isStatic : Bool) (params : List α) (type : Option α)

/-- **A phrase of a script**, with its place. -/
inductive Node where
  | mk (span : Span) (form : Form Node)

instance : Inhabited Node := ⟨.mk .none .invalid⟩

namespace Node

/-- The place of a phrase. -/
def span : Node → Span
  | mk s _ => s

/-- The kind of a phrase, with its parts. -/
def form : Node → Form Node
  | mk _ f => f

/-- The same phrase at another place. -/
def withSpan (n : Node) (s : Span) : Node := mk s n.form

/-- Where a phrase starts. -/
def lo (n : Node) : Nat := n.span.lo

/-- Where a phrase ends. -/
def hi (n : Node) : Nat := n.span.hi

/-- The name, if the phrase is one. -/
def name? (n : Node) : Option String :=
  match n.form with
  | .ident name _ => some name
  | .binding name _ _ => some name
  | _ => none

end Node

namespace Form

variable {α β : Type}

/-- **The parts of a form**, in the order of a walk. -/
def parts : Form α → List α
  | invalid | ident .. | privateName _ | string .. | number _ | bigint _ | bool _ | null
  | regexp .. | elementText .. | this | super | importWord _ | templatePiece .. | metaProperty _
  | emptyExpr | emptyMember | empty | debugger | keywordType _ | thisType => []
  | computed a | spread a | unary _ a | update _ _ a | await a | paren a | elementClosing a
  | container a | spreadChild a | constAssertion a | nonNull a | shorthand a | param a
  | paramProperty _ a | staticBlock a | exprStatement a | throwStatement a | importDefault a
  | importNamespace a | exportDecl a | exportNamespace a | exportDefault a | exportDefaultExpr a
  | exportAll _ a | externalModule a | exportEquals a | exportAsNamespace a | colonType a
  | arrayType a | optionalType a | restType a | inferType a | parenType a | typeOperator _ a
  | literalType a | optionalChain _ a => [a]
  | binary _ a b | assign _ a b | member a b | superMember a b | elementMember a b
  | elementNamespaced a b | typeAssertion a b | asType a b | satisfies a b | instantiation a b
  | keyValue a b | assignProperty a b | methodProperty a b | assignPattern a b
  | keyValuePattern a b | method _ _ a b | withStatement a b | labeled a b | whileLoop a b
  | doWhile a b | functionDecl _ a b | classDecl _ a b | importEquals _ _ a b
  | namespaceInner _ _ a b | qualifiedName a b | indexedAccess a b | setterSignature _ a b => [a, b]
  | conditional a b c | forIn a b c | forOf _ a b c => [a, b, c]
  | conditionalType a b c d => [a, b, c, d]
  | array as => as.filterMap id
  | object as | sequence as | block as | interfaceBody as | namespaceBlock as | typeParams as
  | typeArgs as | typeLiteral as | tupleType as | unionType as | intersectionType as
  | fragment as | varDecl _ _ as | usingDecl _ as => as
  | yield _ o | returnStatement o | breakStatement o | continueStatement o | binding _ _ o =>
    o.toList
  | functionExpr o a | classExpr o a | tupleElement o a | catchClause o a => o.toList ++ [a]
  | elementAttribute a o | shorthandPattern a o | restPattern a o | declarator a o _ | enumMember a o
  | namespaceDecl _ _ a o | withTypeArgs a o | typeReference a o | typeQuery a o
  | typePredicate _ a o | propertySignature _ _ _ a o | getterSignature _ a o
  | importNamed _ a o | exportName _ a o => a :: o.toList
  | field _ _ a o p | importType a o p | typeParam _ _ _ a o p => a :: (o.toList ++ p.toList)
  | ifStatement a b o => a :: b :: o.toList
  | tryStatement a o p => a :: (o.toList ++ p.toList)
  | taggedTemplate a o b => a :: (o.toList ++ [b])
  | typeAlias _ a o b => a :: (o.toList ++ [b])
  | getterProperty a o p => a :: (o.toList ++ p.toList)
  | setterProperty a o b p => a :: (o.toList ++ b :: p.toList)
  | forLoop o p q a => o.toList ++ p.toList ++ q.toList ++ [a]
  | call a as o => a :: (as ++ o.toList)
  | new a as o => a :: (as.getD [] ++ o.toList)
  | template as bs | templateType as bs => as ++ bs
  | element a as o => a :: (as ++ o.toList)
  | elementOpening a as _ o => a :: (as ++ o.toList)
  | arrow _ as a o p => as ++ a :: (o.toList ++ p.toList)
  | function _ _ as o p q => as ++ o.toList ++ p.toList ++ q.toList
  | arrayPattern as _ o => as.filterMap id ++ o.toList
  | objectPattern as _ o => as ++ o.toList
  | classBody _ as o p q bs => as ++ o.toList ++ p.toList ++ q.toList ++ bs
  | constructor _ a as o => a :: (as ++ o.toList)
  | switch a as => a :: as
  | switchCase o as => o.toList ++ as
  | importDecl _ _ as a => as ++ [a]
  | exportNamed _ as o => as ++ o.toList
  | interface _ a o as b => a :: (o.toList ++ as ++ [b])
  | enum _ _ a as => a :: as
  | functionType as o a | constructorType _ as o a => as ++ o.toList ++ [a]
  | mappedType _ a o _ p => a :: (o.toList ++ p.toList)
  | methodSignature _ _ a as o p => a :: (as ++ o.toList ++ p.toList)
  | callSignature as o p | constructSignature as o p => as ++ o.toList ++ p.toList
  | indexSignature _ _ as o => as ++ o.toList

end Form

end EnvSchema.Script
