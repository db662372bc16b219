/-!
# Paths

A path is a text: names with slashes between them. It is kept as it was written, because messages
show it that way; what it stands for is the list of its components.

* `components` — the names on the way, where a path from the root starts with a slash of its own;
* `join` — a path within the folder at another one;
* `parent?`, `ancestors` — the folders that a path lies in;
* `fileName?`, `extension?` — the last name of a path and its ending;
* `relative?` — the components of a path behind those of another one.
-/

namespace EnvSchema.Files

/-- The pieces of a path between its slashes. -/
def pieces (path : String) : List String := (path.toList.splitOn '/').map String.ofList

/-- Whether a path starts at the root. -/
def isAbsolute (path : String) : Bool := path.startsWith "/"

/-- Whether a piece of a path is a component: it is not empty and does not stand for the folder it
is in. -/
def isStep (piece : String) : Bool := piece != "" && piece != "."

/-- **The components of a path.** A dot counts only where a path starts with it. -/
def components (path : String) : List String :=
  let steps := (pieces path).filter isStep
  if isAbsolute path then "/" :: steps
  else if (pieces path).head? == some "." then "." :: steps
  else steps

/-- **A path within the folder at another one.** A path from the root stays what it is. -/
def join (folder path : String) : String :=
  if isAbsolute path || folder.isEmpty then path
  else if folder.endsWith "/" then folder ++ path
  else folder ++ "/" ++ path

/-- A path without slashes and dots at its end that stand for nothing. -/
def trimmed (cs : List Char) : List Char := go cs.reverse cs.length
where
  /-- The reversed path from its last component on; the number bounds the steps. -/
  go : List Char → Nat → List Char
    | '/' :: [], _ => ['/']
    | '/' :: cs, n + 1 => go cs n
    | '.' :: '/' :: [], _ => ['/']
    | '.' :: '/' :: cs, n + 1 => go cs n
    | cs, _ => cs.reverse

/-- **The folder that a path lies in**; the root lies in none. -/
def parent? (path : String) : Option String :=
  match (components path).getLast? with
  | none | some "/" => none
  | some _ =>
    let cs := (trimmed path.toList).reverse
    some (String.ofList (trimmed (cs.dropWhile (· != '/')).reverse))

/-- The path itself and the folders that it lies in, the innermost first; the number bounds them. -/
def ancestorsUpTo : Nat → String → List String
  | 0, path => [path]
  | n + 1, path =>
    match parent? path with
    | none => [path]
    | some p => path :: ancestorsUpTo n p

/-- **The path itself and the folders that it lies in**, the innermost first. -/
def ancestors (path : String) : List String := ancestorsUpTo (components path).length path

/-- **The last name of a path**, if it ends with one. -/
def fileName? (path : String) : Option String :=
  match (components path).getLast? with
  | none | some "/" | some "." | some ".." => none
  | some name => some name

/-- **The ending of the last name of a path**: what follows its last dot, unless the name starts
with that dot. -/
def extension? (path : String) : Option String := do
  let cs := (← fileName? path).toList.reverse
  match cs.dropWhile (· != '.') with
  | [] | ['.'] => none
  | _ => some (String.ofList (cs.takeWhile (· != '.')).reverse)

/-- **The components of a path behind those of another one**, if it starts with them. -/
def relative? (folder path : String) : Option (List String) :=
  let start := components folder
  let all := components path
  if start.isPrefixOf all then some (all.drop start.length) else none

end EnvSchema.Files
