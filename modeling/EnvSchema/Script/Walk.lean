import EnvSchema.Script.Node

/-!
# Walks over a script

A walk visits a phrase before its parts, and the parts in their fixed order. That the parts of a
phrase are smaller than it makes every walk end.

* `Node.nodesWhere` — the phrases of a walk that leaves out the parts of some; `Node.nodes` — all;
* `Form.refill` — a form with other parts in the place of its own;
* `Node.changeFirst` — changes the first phrase that can be changed, parts before the whole.
-/

namespace EnvSchema.Script

variable {α : Type}

/-! ### Parts are smaller -/

private theorem sizeOf_lt_of_some_mem [SizeOf α] {l : List (Option α)} {a : α} (h : some a ∈ l) :
    sizeOf a < sizeOf l := by
  have := List.sizeOf_lt_of_mem h
  simp at this
  omega

private theorem sizeOf_lt_of_mem_getD [SizeOf α] {o : Option (List α)} {a : α}
    (h : a ∈ o.getD []) : sizeOf a < sizeOf o := by
  cases o with
  | none => simp at h
  | some l =>
    have := List.sizeOf_lt_of_mem (by simpa using h)
    simp
    omega

set_option maxHeartbeats 400000 in
/-- **A part of a form is smaller than the form.** -/
theorem Form.sizeOf_lt_of_mem_parts {f : Form Node} {n : Node} (h : n ∈ f.parts) :
    sizeOf n < sizeOf f := by
  cases f <;> simp only [Form.parts, List.not_mem_nil, List.mem_cons, List.mem_append,
    Option.mem_toList, List.mem_filterMap, id, or_false, exists_eq_right] at h
  all_goals simp
  all_goals grind [→ List.sizeOf_lt_of_mem, → sizeOf_lt_of_some_mem, → sizeOf_lt_of_mem_getD]

namespace Node

/-- The parts of a phrase. -/
def parts (n : Node) : List Node := n.form.parts

/-- A part of a phrase is smaller than the phrase. -/
theorem sizeOf_lt_of_mem_parts {n p : Node} (h : p ∈ n.parts) : sizeOf p < sizeOf n := by
  have := Form.sizeOf_lt_of_mem_parts h
  cases n with
  | mk s f =>
    simp only [form] at this
    simp
    omega

/-! ### Visiting -/

/-- **The phrases of a walk**, the whole before its parts; the parts of a phrase are left out unless
the condition holds of it. -/
def nodesWhere (enter : Node → Bool) (n : Node) : List Node :=
  n :: if enter n then n.parts.attach.flatMap fun ⟨p, _⟩ => p.nodesWhere enter else []
termination_by sizeOf n
decreasing_by exact sizeOf_lt_of_mem_parts (by assumption)

/-- All phrases of a walk. -/
def nodes (n : Node) : List Node := n.nodesWhere fun _ => true

/-- The walk over a phrase starts with it and goes on with its parts. -/
theorem nodes_eq (n : Node) : n.nodes = n :: n.parts.flatMap nodes := by
  unfold nodes
  conv => lhs; rw [nodesWhere]
  simp only [if_true, List.cons.injEq, true_and]
  conv => rhs; rw [← List.attach_map_subtype_val n.parts, List.flatMap_map]

end Node

/-! ### Changing -/

namespace Form

/-- One part, in the place of the given one. -/
@[noinline] def one (a : α) : StateM (List α) α := fun l => (l.headD a, l.tail)

/-- As many parts as there are. -/
@[noinline] def many (as : List α) : StateM (List α) (List α) := as.mapM one

/-- A part if there is one. -/
@[noinline] def opt (o : Option α) : StateM (List α) (Option α) := o.mapM one

/-- Parts in the places that are not empty. -/
@[noinline] def holes (as : List (Option α)) : StateM (List α) (List (Option α)) := as.mapM opt

/-- As many parts as there are, if there may be any. -/
@[noinline] def manyOpt (o : Option (List α)) : StateM (List α) (Option (List α)) := o.mapM many

/-- A form with the parts that are still to come in the place of its own. -/
def refillM : Form α → StateM (List α) (Form α)
  | computed a => do return computed (← one a)
  | spread a => do return spread (← one a)
  | unary x a => do return unary x (← one a)
  | update x y a => do return update x y (← one a)
  | await a => do return await (← one a)
  | paren a => do return paren (← one a)
  | elementClosing a => do return elementClosing (← one a)
  | container a => do return container (← one a)
  | spreadChild a => do return spreadChild (← one a)
  | constAssertion a => do return constAssertion (← one a)
  | nonNull a => do return nonNull (← one a)
  | shorthand a => do return shorthand (← one a)
  | param a => do return param (← one a)
  | paramProperty x a => do return paramProperty x (← one a)
  | staticBlock a => do return staticBlock (← one a)
  | exprStatement a => do return exprStatement (← one a)
  | throwStatement a => do return throwStatement (← one a)
  | importDefault a => do return importDefault (← one a)
  | importNamespace a => do return importNamespace (← one a)
  | exportDecl a => do return exportDecl (← one a)
  | exportNamespace a => do return exportNamespace (← one a)
  | exportDefault a => do return exportDefault (← one a)
  | exportDefaultExpr a => do return exportDefaultExpr (← one a)
  | exportAll x a => do return exportAll x (← one a)
  | externalModule a => do return externalModule (← one a)
  | exportEquals a => do return exportEquals (← one a)
  | exportAsNamespace a => do return exportAsNamespace (← one a)
  | colonType a => do return colonType (← one a)
  | arrayType a => do return arrayType (← one a)
  | optionalType a => do return optionalType (← one a)
  | restType a => do return restType (← one a)
  | inferType a => do return inferType (← one a)
  | parenType a => do return parenType (← one a)
  | typeOperator x a => do return typeOperator x (← one a)
  | literalType a => do return literalType (← one a)
  | optionalChain x a => do return optionalChain x (← one a)
  | binary x a b => do return binary x (← one a) (← one b)
  | assign x a b => do return assign x (← one a) (← one b)
  | member a b => do return member (← one a) (← one b)
  | superMember a b => do return superMember (← one a) (← one b)
  | elementMember a b => do return elementMember (← one a) (← one b)
  | elementNamespaced a b => do return elementNamespaced (← one a) (← one b)
  | typeAssertion a b => do return typeAssertion (← one a) (← one b)
  | asType a b => do return asType (← one a) (← one b)
  | satisfies a b => do return satisfies (← one a) (← one b)
  | instantiation a b => do return instantiation (← one a) (← one b)
  | keyValue a b => do return keyValue (← one a) (← one b)
  | assignProperty a b => do return assignProperty (← one a) (← one b)
  | methodProperty a b => do return methodProperty (← one a) (← one b)
  | assignPattern a b => do return assignPattern (← one a) (← one b)
  | keyValuePattern a b => do return keyValuePattern (← one a) (← one b)
  | method x y a b => do return method x y (← one a) (← one b)
  | withStatement a b => do return withStatement (← one a) (← one b)
  | labeled a b => do return labeled (← one a) (← one b)
  | whileLoop a b => do return whileLoop (← one a) (← one b)
  | doWhile a b => do return doWhile (← one a) (← one b)
  | functionDecl x a b => do return functionDecl x (← one a) (← one b)
  | classDecl x a b => do return classDecl x (← one a) (← one b)
  | importEquals x y a b => do return importEquals x y (← one a) (← one b)
  | namespaceInner x y a b => do return namespaceInner x y (← one a) (← one b)
  | qualifiedName a b => do return qualifiedName (← one a) (← one b)
  | indexedAccess a b => do return indexedAccess (← one a) (← one b)
  | setterSignature x a b => do return setterSignature x (← one a) (← one b)
  | conditional a b c => do return conditional (← one a) (← one b) (← one c)
  | forIn a b c => do return forIn (← one a) (← one b) (← one c)
  | forOf x a b c => do return forOf x (← one a) (← one b) (← one c)
  | conditionalType a b c d => do return conditionalType (← one a) (← one b) (← one c) (← one d)
  | array as => do return array (← holes as)
  | object as => do return object (← many as)
  | sequence as => do return sequence (← many as)
  | block as => do return block (← many as)
  | interfaceBody as => do return interfaceBody (← many as)
  | namespaceBlock as => do return namespaceBlock (← many as)
  | typeParams as => do return typeParams (← many as)
  | typeArgs as => do return typeArgs (← many as)
  | typeLiteral as => do return typeLiteral (← many as)
  | tupleType as => do return tupleType (← many as)
  | unionType as => do return unionType (← many as)
  | intersectionType as => do return intersectionType (← many as)
  | fragment as => do return fragment (← many as)
  | varDecl x y as => do return varDecl x y (← many as)
  | usingDecl x as => do return usingDecl x (← many as)
  | yield x o => do return yield x (← opt o)
  | returnStatement o => do return returnStatement (← opt o)
  | breakStatement o => do return breakStatement (← opt o)
  | continueStatement o => do return continueStatement (← opt o)
  | binding x y o => do return binding x y (← opt o)
  | functionExpr o a => do return functionExpr (← opt o) (← one a)
  | classExpr o a => do return classExpr (← opt o) (← one a)
  | tupleElement o a => do return tupleElement (← opt o) (← one a)
  | catchClause o a => do return catchClause (← opt o) (← one a)
  | elementAttribute a o => do return elementAttribute (← one a) (← opt o)
  | shorthandPattern a o => do return shorthandPattern (← one a) (← opt o)
  | restPattern a o => do return restPattern (← one a) (← opt o)
  | declarator a o x => do return declarator (← one a) (← opt o) x
  | enumMember a o => do return enumMember (← one a) (← opt o)
  | namespaceDecl x y a o => do return namespaceDecl x y (← one a) (← opt o)
  | withTypeArgs a o => do return withTypeArgs (← one a) (← opt o)
  | typeReference a o => do return typeReference (← one a) (← opt o)
  | typeQuery a o => do return typeQuery (← one a) (← opt o)
  | typePredicate x a o => do return typePredicate x (← one a) (← opt o)
  | propertySignature x y z a o => do return propertySignature x y z (← one a) (← opt o)
  | getterSignature x a o => do return getterSignature x (← one a) (← opt o)
  | importNamed x a o => do return importNamed x (← one a) (← opt o)
  | exportName x a o => do return exportName x (← one a) (← opt o)
  | field x y a o p => do return field x y (← one a) (← opt o) (← opt p)
  | importType a o p => do return importType (← one a) (← opt o) (← opt p)
  | typeParam x y z a o p => do return typeParam x y z (← one a) (← opt o) (← opt p)
  | ifStatement a b o => do return ifStatement (← one a) (← one b) (← opt o)
  | tryStatement a o p => do return tryStatement (← one a) (← opt o) (← opt p)
  | taggedTemplate a o b => do return taggedTemplate (← one a) (← opt o) (← one b)
  | typeAlias x a o b => do return typeAlias x (← one a) (← opt o) (← one b)
  | getterProperty a o p => do return getterProperty (← one a) (← opt o) (← opt p)
  | setterProperty a o b p => do return setterProperty (← one a) (← opt o) (← one b) (← opt p)
  | forLoop o p q a => do return forLoop (← opt o) (← opt p) (← opt q) (← one a)
  | call a as o => do return call (← one a) (← many as) (← opt o)
  | new a as o => do return new (← one a) (← manyOpt as) (← opt o)
  | template as bs => do return template (← many as) (← many bs)
  | templateType as bs => do return templateType (← many as) (← many bs)
  | element a as o => do return element (← one a) (← many as) (← opt o)
  | elementOpening a as x o => do return elementOpening (← one a) (← many as) x (← opt o)
  | arrow x as a o p => do return arrow x (← many as) (← one a) (← opt o) (← opt p)
  | function x y as o p q => do return function x y (← many as) (← opt o) (← opt p) (← opt q)
  | arrayPattern as x o => do return arrayPattern (← holes as) x (← opt o)
  | objectPattern as x o => do return objectPattern (← many as) x (← opt o)
  | classBody x as o p q bs => do
    return classBody x (← many as) (← opt o) (← opt p) (← opt q) (← many bs)
  | constructor x a as o => do return constructor x (← one a) (← many as) (← opt o)
  | switch a as => do return switch (← one a) (← many as)
  | switchCase o as => do return switchCase (← opt o) (← many as)
  | importDecl x y as a => do return importDecl x y (← many as) (← one a)
  | exportNamed x as o => do return exportNamed x (← many as) (← opt o)
  | interface x a o as b => do return interface x (← one a) (← opt o) (← many as) (← one b)
  | enum x y a as => do return enum x y (← one a) (← many as)
  | functionType as o a => do return functionType (← many as) (← opt o) (← one a)
  | constructorType x as o a => do return constructorType x (← many as) (← opt o) (← one a)
  | mappedType x a o y p => do return mappedType x (← one a) (← opt o) y (← opt p)
  | methodSignature x y a as o p => do
    return methodSignature x y (← one a) (← many as) (← opt o) (← opt p)
  | callSignature as o p => do return callSignature (← many as) (← opt o) (← opt p)
  | constructSignature as o p => do return constructSignature (← many as) (← opt o) (← opt p)
  | indexSignature x y as o => do return indexSignature x y (← many as) (← opt o)
  | f => return f

/-- **A form with other parts in the place of its own**, in the order of `parts`. -/
def refill (f : Form α) (parts : List α) : Form α := (f.refillM parts).1

end Form

namespace Node

/-- A list with the first element changed that can be changed. -/
def changeFirstOf (change : α → Option α) : List α → Option (List α)
  | [] => none
  | a :: l =>
    match change a with
    | some b => some (b :: l)
    | none => (changeFirstOf change l).map (a :: ·)

/-- **Changes the first phrase that can be changed**, where parts come before the whole. -/
def changeFirst (change : Node → Option Node) (n : Node) : Option Node :=
  let changed := n.parts.attach.map fun ⟨p, _⟩ => (p, p.changeFirst change)
  match changeFirstOf (fun p : Node × Option Node => p.2.map fun b => (b, none)) changed with
  | some ps => some (.mk n.span (n.form.refill (ps.map (·.1))))
  | none => change n
termination_by sizeOf n
decreasing_by exact sizeOf_lt_of_mem_parts (by assumption)

end Node

end EnvSchema.Script
