import EnvSchema.Data.Json.Reader

/-!
# The manifest of a project

The file `package.json` in the root of a project: its name, and the packages that it depends on.

* `Manifest` — what matters of it;
* `Manifest.parse` — reads one. A manifest is an object; a list of the three values in their order
  will do as well.
-/

namespace EnvSchema

/-- **What a project says of itself.** -/
structure Manifest where
  name : Option String := none
  /-- The packages it depends on. -/
  dependencies : List String := []
  /-- The packages it depends on while it is made. -/
  devDependencies : List String := []
  deriving Repr, DecidableEq, Inhabited

namespace Manifest

open Data.Json (Read)

/-- Whether a project depends on a package. -/
def dependsOn (m : Manifest) (package : String) : Bool :=
  m.dependencies.contains package || m.devDependencies.contains package

/-- How the kind of value is named that is expected. -/
def expected : String := "struct PackageJson"

/-- What has been read of a manifest; each part may have been read or not. -/
structure Draft where
  name : Option (Option String) := none
  dependencies : Option (Option (List String)) := none
  devDependencies : Option (Option (List String)) := none

/-- The manifest that a draft amounts to. -/
def Draft.finish (d : Draft) : Manifest :=
  { name := d.name.getD none
    dependencies := (d.dependencies.getD none).getD []
    devDependencies := (d.devDependencies.getD none).getD [] }

/-- Fails where the closing sign would be, if that could be read, with the fault that was found
before. -/
def failBehind {α : Type} (close : Read Unit) (message : String) : Read α := do
  tryCatch close fun _ => pure ()
  Data.Json.fail (.unexpected message)

/-- Fails with a part that was read before. -/
def duplicate {α : Type} (key : String) : Read α :=
  failBehind Data.Json.closeObject ("duplicate field `" ++ key ++ "`")

/-- Reads one part of a manifest. -/
def part (d : Draft) (key : String) : Read Draft := do
  let packages := Data.Json.optional Data.Json.textKeys
  match key with
  | "name" =>
    if d.name.isSome then duplicate key
    Data.Json.colon
    return { d with name := some (← Data.Json.optional Data.Json.text) }
  | "dependencies" =>
    if d.dependencies.isSome then duplicate key
    Data.Json.colon
    return { d with dependencies := some (← packages) }
  | "devDependencies" =>
    if d.devDependencies.isSome then duplicate key
    Data.Json.colon
    return { d with devDependencies := some (← packages) }
  | _ =>
    Data.Json.colon
    Data.Json.skip
    return d

/-- One more element of a list of parts, of which some have been read. -/
def element {α : Type} (before : Nat) (read : Read α) : Read α := do
  if ← Data.Json.hasElement (before == 0) then read
  else
    failBehind Data.Json.closeList
      ("invalid length " ++ toString before ++ ", expected " ++ expected ++ " with 3 elements")

/-- The parts of a manifest, one after the other. -/
def elements : Read Manifest := do
  let packages := Data.Json.optional Data.Json.textKeys
  let name ← element 0 (Data.Json.optional Data.Json.text)
  let dependencies ← element 1 packages
  let devDependencies ← element 2 packages
  Data.Json.closeList
  return Draft.finish ⟨some name, some dependencies, some devDependencies⟩

/-- Reads a manifest. -/
def read : Read Manifest := do
  Data.Json.present
  match ← Data.Json.peek with
  | some '[' =>
    Data.Json.pass
    elements
  | some '{' =>
    Data.Json.pass
    let d ← Data.Json.entries part ((← get).length + 1) true {}
    Data.Json.closeObject
    return d.finish
  | _ => Data.Json.unexpected expected

/-- **Reads a manifest from a text**, or says why the text is none. -/
def parse (source : String) : Except String Manifest := Data.Json.run read source

end Manifest

end EnvSchema
