import EnvSchema.Failure
import EnvSchema.Glob.Search
import EnvSchema.Script.References

/-!
# The sources of a project

The files of a project with a certain ending are searched for variables that they read and the
schema does not declare.

* `sourceFiles` — the files to be searched, in the order of their paths;
* `undeclaredIn` — the first undeclared variable of one file;
* `undeclaredInAll` — the first undeclared variables of some files.
-/

namespace EnvSchema.Project

open Files (Tree components)

/-! ### Files -/

/-- The rank of a component of a path in the order of paths: signs come before names. -/
def componentRank : String → Nat
  | "/" => 0
  | "." => 1
  | ".." => 2
  | _ => 3

/-- The order of the components of paths. -/
def compareComponents (a b : String) : Ordering :=
  (compare (componentRank a) (componentRank b)).then (compare a b)

/-- **The order of paths**: they are compared component by component. -/
def comparePaths (a b : String) : Ordering := List.compareLex compareComponents (components a) (components b)

/-- Paths in their order, where those with the same components count once. -/
def sortedPaths (paths : List String) : List String :=
  dropRepeated (paths.mergeSort fun a b => (comparePaths a b).isLE)
where
  /-- A list without those members that only repeat the one before. -/
  dropRepeated : List String → List String
    | a :: b :: l =>
      if components a = components b then dropRepeated (a :: l) else a :: dropRepeated (b :: l)
    | l => l

/-- The pattern for the files in a folder with an ending. -/
def pattern (folder extension : String) : String :=
  Glob.escape folder ++ "/**/*." ++ extension

/-- Whether the way from a folder to a file goes through a name that is passed over. -/
def isExcluded (folder : String) (exclude : List String) (path : String) : Bool :=
  ((Files.relative? folder path).getD (components path)).any exclude.contains

/-- The files in a folder with one ending, in no particular order. -/
def filesEnding (t : Tree) (folder : String) (exclude : List String) (extension : String) :
    Except Failure (List String) := do
  let found ← (Glob.search t (pattern folder extension)).mapError
    (Failure.pattern (pattern folder extension))
  return found.filter fun p => t.isFile p && !isExcluded folder exclude p

/-- **The files to be searched**, in the order of their paths: those in a folder that have one of
the endings and to which no name leads that is passed over. -/
def sourceFiles (t : Tree) (folder : String) (extensions exclude : List String) :
    Except Failure (List String) := do
  return sortedPaths (← extensions.mapM (filesEnding t folder exclude)).flatten

/-! ### Variables -/

/-- **The first variable that a file reads and a set lacks.** A file that is no script reads
none. -/
def undeclaredIn (t : Tree) (declared : Names) (path : String) : Except Failure (Option String) :=
  match (Files.extension? path).bind Script.Dialect.ofExtension? with
  | none => .ok none
  | some dialect => do
    let source ← Files.orFailAt .read path (t.readText path)
    let m ← (Script.Module.parse dialect source).mapError (Failure.script path)
    return m.firstUndeclared declared

/-- **The first undeclared variable of each file.** The first file that cannot be read as a script
fails. -/
def undeclaredInAll (t : Tree) (declared : Names) (paths : List String) : Except Failure Names := do
  return .ofList ((← paths.mapM (undeclaredIn t declared)).filterMap id)

end EnvSchema.Project
