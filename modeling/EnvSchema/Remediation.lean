import EnvSchema.Schema.Editing
import EnvSchema.Schema.Guess
import EnvSchema.Text.Styled

/-!
# Remediation

Names that the schema does not declare are offered to the user one by one. The user says whether a
name is to be added and which type it has; the schema is saved once, after the last name.

* `offer` — offers one name;
* `offerAll` — offers names in their order;
* `remediate` — offers the names of a set, saves the schema and answers what was added.
-/

namespace EnvSchema

/-- What is said of a name whose field is left to the user. -/
def byHandMessage (name : String) : String := "You are going to have to add $" ++ name ++ " manually!"

/-- **Offers a name** and says whether its field was added. -/
def offer (p : Prompter) (settings : SchemaSettings) (name : String) : Edit Bool := do
  let wanted ← Run.confirm p name
  if !wanted then return false
  let type ← Run.pick p name (ranked name)
  if type = .other then
    Run.say (Text.yellow (byHandMessage name))
    return false
  Edit.add name type settings

/-- **Offers names in their order** and answers those that were added. -/
def offerAll (p : Prompter) (settings : SchemaSettings) : List String → Edit (List String)
  | [] => return []
  | n :: ns => do
    let isAdded ← offer p settings n
    let rest ← offerAll p settings ns
    return if isAdded then n :: rest else rest

/-- **Offers the names of a set and saves the schema.** What was added is answered in the order of
the set. -/
def remediate (p : Prompter) (settings : SchemaSettings) (missing : Names) : Edit (List String) := do
  let added ← offerAll p settings missing.toList
  let _ ← Edit.save
  return added

end EnvSchema
