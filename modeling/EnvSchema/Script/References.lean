import EnvSchema.Names
import EnvSchema.Script.Module

/-!
# What a module says of the environment

A module speaks of environment variables in two ways: it reads them from `process.env`, and the keys
of its object literals declare them.

* `Module.nodes` — all phrases, in the order of a walk;
* `Node.envName?` — the variable that a phrase reads;
* `Module.references` — the variables that are read, in the order of the walk;
* `Node.search`, `Module.firstUndeclared` — the search for one that is not in a set, which leaves out
  what stands within the member it finds and within every member after it;
* `Module.undeclared` — all that are not in a set;
* `Module.keys` — the keys of all object literals;
* `Module.imports` — whether another module is imported.
-/

namespace EnvSchema.Script

namespace Node

/-- Whether a phrase is `process.env`. -/
def isEnvironment (n : Node) : Bool :=
  match n.form with
  | .member (.mk _ (.ident object _)) (.mk _ (.ident key _)) => object == "process" && key == "env"
  | _ => false

/-- The name of a member: a word behind a dot, or a string in brackets. -/
def memberName? (key : Node) : Option String :=
  match key.form with
  | .ident name _ => some name
  | .computed (.mk _ (.string value _)) => some value
  | _ => none

/-- **The variable that a phrase reads**: `process.env.NAME` or `process.env["NAME"]`. -/
def envName? (n : Node) : Option String :=
  match n.form with
  | .member object key => if object.isEnvironment then memberName? key else none
  | _ => none

/-- Whether a phrase is a member of another one. -/
def isMember (n : Node) : Bool :=
  match n.form with
  | .member .. => true
  | _ => false

/-- The variable that a phrase reads, if it is not declared. -/
def undeclared? (declared : Names) (n : Node) : Option String := n.envName?.filter (· ∉ declared)

/-- **A search for a variable that is read but not declared**, which goes on from what was found
before. It ends at members only: once something is found, nothing within a member is looked at, and
all other phrases are still gone through. -/
def search (declared : Names) (found : Option String) (n : Node) : Option String :=
  if n.isMember && found.isSome then found
  else
    match n.undeclared? declared with
    | some name => some name
    | none => n.parts.attach.foldl (fun found ⟨p, _⟩ => p.search declared found) found
termination_by sizeOf n
decreasing_by exact sizeOf_lt_of_mem_parts (by assumption)

/-- The text of a key that is a word or a string. -/
def keyText? (key : Node) : Option String :=
  match key.form with
  | .ident name _ => some name
  | .string value _ => some value
  | _ => none

/-- The key that a property declares, if it is a word or a string. -/
def key? (n : Node) : Option String :=
  match n.form with
  | .keyValue key _ => key.keyText?
  | .shorthand name => name.name?
  | _ => none

end Node

namespace Module

/-- All phrases, in the order of a walk. -/
def nodes (m : Module) : List Node := m.items.flatMap Node.nodes

/-- **The variables that a module reads**, in the order of the walk. -/
def references (m : Module) : List String := m.nodes.filterMap Node.envName?

/-- **The first variable that is read but not declared**, as a search through the items finds it. -/
def firstUndeclared (m : Module) (declared : Names) : Option String :=
  m.items.foldl (fun found item => item.search declared found) none

/-- All variables that are read but not declared, each where it is read first. -/
def undeclared (m : Module) (declared : Names) : List String :=
  (m.references.filter fun n => n ∉ declared).eraseDups

/-- **The keys of all object literals.** -/
def keys (m : Module) : Names := .ofList (m.nodes.filterMap Node.key?)

/-- **Whether another module is imported.** -/
def imports (m : Module) (library : String) : Bool :=
  m.items.any fun n =>
    match n.form with
    | .importDecl _ _ _ (.mk _ (.string source _)) => source == library
    | _ => false

end Module

end EnvSchema.Script
