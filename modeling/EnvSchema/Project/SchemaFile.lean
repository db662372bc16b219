import EnvSchema.Config.Settings
import EnvSchema.Failure

/-!
# Which file holds the schema

* `candidates` — the files in the folder of the env modules that may hold the schema, in the order
  of their names;
* `firstMentioning` — the first of some files whose text mentions a name;
* `schemaFile` — the file that holds the schema.
-/

namespace EnvSchema.Project

open Files (Tree join)

/-- The ending of the names of files that may hold the schema. -/
def moduleExtension : String := "mjs"

/-- The name that a file with the schema usually has. -/
def usualName : String := "schema.mjs"

/-- **The files in a folder that may hold the schema**, in the order of their names. -/
def candidates (t : Tree) (folder : String) : Except Failure (List String) := do
  let names ← Files.orFailAt .read folder (t.names folder)
  return (names.mergeSort (· ≤ ·)).filter fun n =>
    t.isFile (join folder n) && Files.extension? n == some moduleExtension

/-- Whether a text contains another one. -/
def contains (part : List Char) : List Char → Bool
  | [] => part.isEmpty
  | c :: cs => part.isPrefixOf (c :: cs) || contains part cs

/-- **The first of some files whose text mentions a name.** No file behind it is read. -/
def firstMentioning (t : Tree) (name : String) : List String → Except Failure (Option String)
  | [] => .ok none
  | path :: paths => do
    let text ← Files.orFailAt .read path (t.readText path)
    if contains name.toList text.toList then return some path else firstMentioning t name paths

/-- **The file that holds the schema.** It is the one that the settings name; else the one with the
usual name; else the first one that mentions the object with the server's fields; else the second
one. -/
def schemaFile (t : Tree) (folder : String) (settings : SchemaSettings) : Except Failure String :=
  match settings.file with
  | some name =>
    let path := join folder name
    if t.isFile path then .ok path else .error (.noSchemaFile folder)
  | none => do
    let names ← candidates t folder
    if names.contains usualName then return join folder usualName
    let paths := names.map (join folder)
    match ← firstMentioning t settings.object paths with
    | some path => return path
    | none =>
      match paths[1]? with
      | some path => return path
      | none => throw (.noSchemaFile folder)

end EnvSchema.Project
