import EnvSchema.Script.References
import EnvSchema.Script.Printer.Modules
import EnvSchema.Script.Reader.Variables
import EnvSchema.Text.Blank

/-!
# Printed scripts

* `Print.form` — one phrase, given how its parts are printed;
* `Print.node` — a phrase with all that is within it, up to a depth;
* `Module.print` — a whole module. Each comment is printed once: what is left has no comments;
* `breakAfterComments` — puts what follows the end of a comment on a line of its own.
-/

namespace EnvSchema.Script

namespace Print

/-- A function, if the phrase is one. -/
def ofFunction (n : Node) (step : FunctionParts → Print) : Print :=
  option (FunctionParts.ofNode? n) step

/-- **One phrase**, given how its parts are printed. -/
def form (p : Printer) (depth : Nat) (n : Node) : Print :=
  match n.form with
  | .invalid | .emptyExpr => pure ()
  | .ident name isOptional => put (if isOptional then name ++ "?" else name)
  | .privateName name => put ("#" ++ name)
  | .computed e => do put "["; expr p e; put "]"
  | .string _ raw | .number raw | .bigint raw => put raw
  | .bool b => put (if b then "true" else "false")
  | .null => put "null"
  | .regexp body flags => put ("/" ++ body ++ "/" ++ flags)
  | .elementText value _ => put value
  | .this | .thisType => put "this"
  | .super => put "super"
  | .importWord phase => put (if phase.isEmpty then "import" else "import." ++ phase)
  | .array elems => array p elems
  | .object props => object p n props
  | .spread e => do put "..."; expr p e
  | .functionExpr name f => ofFunction f (functionExpr p name)
  | .classExpr name body => classPhrase p false name body
  | .arrow isAsync params body tps type => arrow p isAsync params body tps type
  | .unary op arg => unary p op arg
  | .update op isPrefix arg =>
    if isPrefix then do put op; expr p arg else do expr p arg; put op
  | .binary op left right => binary p op left right
  | .assign op left right => do p left; put (" " ++ op ++ " "); expr p right
  | .conditional test yes no => conditional p test yes no
  | .member obj key => member p obj key
  | .superMember obj key => do
    p obj
    if !(key.form matches .computed _) then put "."
    p key
  | .call callee args targs => call p callee args targs
  | .new callee args targs => construct p callee args targs
  | .optionalChain isOptional base => chain p isOptional base
  | .sequence es => commas (es.map (expr p))
  | .template values pieces | .templateType values pieces => template p values pieces
  | .templatePiece raw _ _ => put (templatePiece raw)
  | .taggedTemplate tag targs tpl => do target p tag; option targs p; p tpl
  | .yield isDelegate arg => yield p isDelegate arg
  | .await arg => do put "await "; expr p arg
  | .metaProperty isNewTarget => put (if isNewTarget then "new.target" else "import.meta")
  | .paren e => do put "("; expr p e; put ")"
  | .element opening children closing => element p opening children closing
  | .elementOpening name attrs isSelfClosing targs =>
    elementOpening p name attrs isSelfClosing targs
  | .elementClosing name => do put "</"; p name; put ">"
  | .fragment children => do put "<>"; children.forM p; put "</>"
  | .elementMember obj key => do p obj; put "."; p key
  | .elementNamespaced space name => do p space; put ":"; p name
  | .elementAttribute name value => do
    p name
    option value fun v => do put "="; p v
  | .container e => do put "\x7b"; expr p e; put "\x7d"
  | .spreadChild e => do put "\x7b..."; expr p e; put "\x7d"
  | .typeAssertion e type => do put "<"; p type; put ">"; expr p e
  | .constAssertion e => do expr p e; put " as const"
  | .asType e type => do expr p e; put " as "; p type
  | .satisfies e type => do expr p e; put " satisfies "; p type
  | .nonNull e => do expr p e; put "!"
  | .instantiation e targs => do expr p e; p targs
  | .shorthand name => p name
  | .keyValue key value => do p key; put ": "; expr p value
  | .assignProperty key value => do p key; put "="; expr p value
  | .getterProperty key _ body => accessorProperty p "get" key [] body
  | .setterProperty key this param body =>
    accessorProperty p "set" key (this.toList ++ [param]) body
  | .methodProperty key f => ofFunction f (methodProperty p key)
  | .binding name isOptional type => binding p (put name) isOptional type
  | .arrayPattern elems isOptional type => binding p (arrayPattern p elems) isOptional type
  | .objectPattern props isOptional type => binding p (braced (props.map p)) isOptional type
  | .restPattern arg type => do put "..."; pattern p arg; typed p type
  | .assignPattern left right => do pattern p left; put " = "; expr p right
  | .keyValuePattern key value => do p key; put ": "; pattern p value
  | .shorthandPattern key value => do p key; assigned p value
  | .function isAsync isGenerator params body tps type =>
    functionRest p ⟨isAsync, isGenerator, params, body, tps, type⟩
  | .param q => pattern p q
  | .paramProperty m param => paramProperty p m param
  | .classBody _ items superclass _ superTypeArgs implemented =>
    classRest p n items superclass superTypeArgs implemented
  | .constructor m _ params body => constructor p m params body
  | .method kind m key f => ofFunction f (method p kind m key)
  | .field isAccessor m key value type => field p isAccessor m key value type
  | .staticBlock body => do put "static"; p body
  | .emptyMember | .empty => put ";"
  | .block body => block p n body
  | .debugger => put "debugger;"
  | .exprStatement e => do expr p e; put ";"
  | .withStatement obj body => do condition p "with(" obj ")"; stmt p body
  | .returnStatement arg => do
    put "return"
    option arg fun a => do space; expr p a
    put ";"
  | .labeled label body => do p label; put ": "; stmt p body
  | .breakStatement label => jump p "break" label
  | .continueStatement label => jump p "continue" label
  | .ifStatement test yes no => ifStatement p test yes no
  | .switch subject cases => switch p subject cases
  | .switchCase test body => switchCase p test body
  | .throwStatement arg => do put "throw "; expr p arg; put ";"
  | .tryStatement body handler finalizer => tryStatement p body handler finalizer
  | .catchClause param body => catchClause p param body
  | .whileLoop test body => do condition p "while(" test ")"; stmt p body
  | .doWhile test body => doWhile p test body
  | .forLoop init test update body => forLoop p init test update body
  | .forIn left right body => forEach p "for(" "in" left right body
  | .forOf isAwait left right body =>
    forEach p (if isAwait then "for await (" else "for (") "of" left right body
  | .varDecl kind isDeclare decls => do word isDeclare "declare"; variableList p kind.word decls
  | .usingDecl isAwait decls => variableList p (if isAwait then "await using" else "using") decls
  | .declarator q value _ => do pattern p q; assigned p value
  | .functionDecl isDeclare name f => ofFunction f (functionDecl p isDeclare name)
  | .classDecl isDeclare name body => classPhrase p isDeclare (some name) body
  | .importDecl typeOnly phase specifiers source => importDecl p typeOnly phase specifiers source
  | .importDefault name => p name
  | .importNamespace name => do put "* as "; p name
  | .importNamed typeOnly name imported =>
    renamed p typeOnly (imported.getD name) (imported.map fun _ => name)
  | .exportDecl decl => do
    put "export "
    p decl
    if decl.form matches .varDecl .. then put ";"
  | .exportNamed typeOnly specifiers source => exportNamed p typeOnly specifiers source
  | .exportNamespace name => do put "* as "; p name
  | .exportName typeOnly name exported => renamed p typeOnly name exported
  | .exportDefault decl => do put "export default "; p decl
  | .exportDefaultExpr e => do put "export default "; expr p e; put ";"
  | .exportAll typeOnly source => do
    put "export "
    word typeOnly "type"
    put "* from "
    p source
    put ";"
  | .importEquals isExport typeOnly name target => importEquals p isExport typeOnly name target
  | .externalModule source => do put "require("; p source; put ")"
  | .exportEquals e => do put "export = "; expr p e
  | .exportAsNamespace name => do put "export as namespace "; p name; put ";"
  | .interface isDeclare name tps parents body => interface p isDeclare name tps parents body
  | .interfaceBody items | .typeLiteral items => typeMembers p items
  | .typeAlias isDeclare name tps type => typeAlias p isDeclare name tps type
  | .enum isDeclare isConst name items => enum p isDeclare isConst name items
  | .enumMember name value => do p name; assigned p value
  | .namespaceDecl isDeclare isGlobal name body =>
    namespaceDecl p depth isDeclare isGlobal name body
  | .namespaceInner isDeclare isGlobal name body =>
    namespaceDecl p depth isDeclare isGlobal name (some body)
  | .namespaceBlock body => do put "\x7b"; rows "" (body.map (moduleItem p)); put "\x7d"
  | .withTypeArgs e targs => do expr p e; option targs p
  | .colonType type | .literalType type => p type
  | .typeParams params => angled (params.map p)
  | .typeParam isIn isOut isConst name bound default =>
    typeParam p isIn isOut isConst name bound default
  | .typeArgs args => angled (args.map p)
  | .keywordType w => put w
  | .functionType params tps result => functionType p params tps result
  | .constructorType isAbstract params tps result => do
    word isAbstract "abstract"
    put "new"
    functionType p params tps result
  | .typeReference name targs => do p name; option targs p
  | .qualifiedName left right => do p left; put "."; p right
  | .typeQuery name targs => do put "typeof "; p name; option targs p
  | .arrayType elem => do p elem; put "[]"
  | .tupleType elems => do put "["; commas (elems.map p); put "]"
  | .tupleElement label type => do
    option label fun l => do pattern p l; put ": "
    p type
  | .optionalType type => do p type; put "?"
  | .restType type => do put "..."; p type
  | .unionType types => between (put " | ") (types.map p)
  | .intersectionType types => between (put " & ") (types.map p)
  | .conditionalType check bound yes no => conditionalType p check bound yes no
  | .inferType param => do put "infer "; p param
  | .parenType type => do put "("; p type; put ")"
  | .typeOperator op type => do put (op ++ " "); p type
  | .indexedAccess obj index => do p obj; put "["; p index; put "]"
  | .mappedType readonly param nameType optional type =>
    mappedType p readonly param nameType optional type
  | .typePredicate asserts name type => typePredicate p asserts name type
  | .importType source qualifier targs => importType p source qualifier targs
  | .propertySignature isReadonly isComputed isOptional key type => do
    word isReadonly "readonly"
    signatureKey p isComputed key
    if isOptional then put "?"
    typed p type
  | .getterSignature isComputed key type => do
    put "get "
    signatureKey p isComputed key
    put "()"
    typed p type
  | .setterSignature isComputed key param => do
    put "set "
    signatureKey p isComputed key
    bracketed [p param]
  | .methodSignature isComputed isOptional key params type tps =>
    methodSignature p isComputed isOptional key params type tps
  | .callSignature params type tps => callSignature p params type tps
  | .constructSignature params type tps => constructSignature p params type tps
  | .indexSignature isReadonly isStatic params type => indexSignature p isReadonly isStatic params type

/-- **A phrase with all that is within it**, up to a depth. -/
def node : Nat → Printer
  | 0, _ => pure ()
  | depth + 1, n => do
    leading n.lo
    form (node depth) depth n

end Print

/-! ### What follows a comment -/

/-- A line, cut behind the end of a comment if it starts with one that something follows. What
follows keeps the indentation of the comment's first line, which is one blank less. -/
def breakLine (line : List Char) : List Char :=
  let indent := Text.indent line
  match Text.trimStart line with
  | '*' :: '/' :: ' ' :: rest =>
    if (Text.trim rest).isEmpty then line
    else
      let outer := if indent.getLast? = some ' ' then indent.dropLast else indent
      indent ++ ['*', '/', '\n'] ++ outer ++ rest
  | _ => line

/-- **Puts what follows the end of a comment on a line of its own**, wherever a line starts with
that end. -/
def breakAfterComments (text : String) : String :=
  String.ofList ((Text.linesWithEnds text.toList).flatMap breakLine)

namespace Module

/-- The items of a module on a page, with its first line if that names an interpreter. -/
def printItems (m : Module) : Print := do
  let depth := m.nodes.length + 1
  Print.leading m.span.lo
  Print.option m.hashbang fun h => do
    Print.put ("#!" ++ h)
    Print.line
  m.items.forM (Print.moduleItem (Print.node depth))
  Print.trailing m.span.hi

/-- **Prints a module.** The module that is left has no comments any more: printing takes them. -/
def print (m : Module) : String × Module :=
  let page := (m.printItems.run { comments := m.comments }).2
  (breakAfterComments page.text, { m with comments := page.comments })

end Module

end EnvSchema.Script
