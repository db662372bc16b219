import EnvSchema.Config.Settings
import EnvSchema.Schema.FieldType
import EnvSchema.Script.Printer.Whole
import EnvSchema.Files.Path

/-!
# The schema

The schema is a module in which the keys of object literals declare variables. Fields are added to
its tree, and the tree is printed when it is written.

* `Module.appendField?` — a field at the end of the object with the server's fields;
* `Schema.parse` — reads a schema;
* `Schema.add` — adds the field of a variable, unless it is declared already;
* `Schema.print`, `Schema.readBack` — the text that goes into the file, and the schema that is read
  from it.
-/

namespace EnvSchema

open Script (Node Form Module Complaint)

/-! ### Adding to the tree -/

/-- Whether a phrase looks something up in the library. -/
def isLibraryMember (space : String) (n : Node) : Bool :=
  match n.form with
  | .member (.mk _ (.ident name _)) _ => name == space
  | _ => false

/-- An argument with a property at the end, if the argument is an object. -/
def appendToObject? (property arg : Node) : Option Node :=
  match arg with
  | .mk s (.object props) => some (.mk s (.object (props ++ [property])))
  | .mk s (.spread (.mk t (.object props))) =>
    some (.mk s (.spread (.mk t (.object (props ++ [property])))))
  | _ => none

/-- A variable that is bound to a call of the library, with a property at the end of the first
object that the call is given. -/
def appendToVariable? (settings : SchemaSettings) (property n : Node) : Option Node :=
  match n with
  | .mk s (.declarator q (some (.mk t (.call callee args types))) isDefinite) =>
    let isServer := match q.form with
      | .binding name _ _ => name == settings.object
      | _ => false
    if isServer && isLibraryMember settings.space callee then
      (Node.changeFirstOf (appendToObject? property) args).map fun args =>
        .mk s (.declarator q (some (.mk t (.call callee args types))) isDefinite)
    else none
  | _ => none

/-- **A module with a property at the end of the object with the server's fields**, if it has such
an object. -/
def Script.Module.appendField? (m : Module) (settings : SchemaSettings) (property : Node) :
    Option Module :=
  (Node.changeFirstOf (Node.changeFirst (appendToVariable? settings property)) m.items).map
    fun items => { m with items := items }

/-! ### The schema -/

/-- **The schema, with the names that it declares.** -/
structure Schema where
  /-- The file that holds it. -/
  path : String
  module : Module
  declared : Names
  /-- Names that have been added since the schema was written last, in the order in which they
  were. -/
  pending : List String := []

/-- **Why a field cannot be added.** -/
inductive AddFault where
  /-- The text of the field is not a property. -/
  | field (fault : Module.PropertyFault)
  /-- There is no object with the server's fields; it would be bound to the given name. -/
  | noObject (name : String)
  deriving Repr, DecidableEq

namespace Schema

/-- The dialect of a schema in the file at a path. -/
def dialectOf (path : String) : Script.Dialect :=
  ((Files.extension? path).bind Script.Dialect.ofExtension?).getD .module

/-- **Reads a schema.** -/
def parse (path source : String) : Except Complaint Schema := do
  let m ← Module.parse (dialectOf path) source
  return { path := path, module := m, declared := m.keys }

/-- Whether the schema has to be written. -/
def hasPending (s : Schema) : Bool := !s.pending.isEmpty

/-- **Adds the field of a variable.** It says whether there was anything to add: a name that is
declared is left alone, and a type without a call has no field. -/
def add (s : Schema) (name : String) (type : FieldType) (settings : SchemaSettings) :
    Except AddFault (Bool × Schema) :=
  if name ∈ s.declared then .ok (false, s)
  else
    match fieldText? name type settings.space with
    | none => .ok (false, s)
    | some text =>
      match s.module.property text with
      | .error f => .error (.field f)
      | .ok property =>
        match s.module.appendField? settings property with
        | none => .error (.noObject settings.object)
        | some m =>
          let free := s.module.free + text.length + 7
          .ok (true, { s with
            module := { m with free := free }
            declared := s.declared.insert name
            pending := s.pending ++ [name] })

/-- **The text of a schema**, and the schema afterwards: comments come out only once. -/
def print (s : Schema) : String × Schema :=
  let (text, printed) := s.module.print
  (text, { s with module := printed })

/-- **A schema whose module is read from a text again**, with nothing left to write. -/
def readBack (s : Schema) (text : String) : Except Complaint Schema := do
  return { s with module := ← Module.parse s.module.dialect text, pending := [] }

end Schema

end EnvSchema
