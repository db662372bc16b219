import EnvSchema.Glob.Pattern
import EnvSchema.Files.Tree

/-!
# Searching for files

A pattern with slashes leads from the root through a tree of files, one piece of the pattern for
each folder on the way.

* `steps` — the pieces of a pattern;
* `reached` — where pieces lead to from a path;
* `search` — all files and folders that a pattern leads to.
-/

namespace EnvSchema.Glob

open Files (Tree join pieces isStep)

/-- **What a piece of a pattern says of one step on the way.** -/
inductive Step where
  /-- The next name is the given one; it may be empty, a dot or two. -/
  | name (text : String)
  /-- The next name is one that the pattern stands for. -/
  | some (pattern : Pattern)
  /-- Any folders follow. -/
  | folders
  deriving Repr, DecidableEq

/-- The step of a piece of a pattern. -/
def Step.ofPattern (p : Pattern) : Step :=
  match p.text? with
  | .some t => .name t
  | none => if p.contains .anyFolders then .folders else .some p

/-- Folders that may follow folders that may follow are no more than the latter. -/
def collapse : List Step → List Step
  | .folders :: .folders :: ss => collapse (.folders :: ss)
  | s :: ss => s :: collapse ss
  | [] => []

/-- The pieces of a text between slashes, where the end of the text ends the last one unless that is
empty. -/
def piecesTerminated (text : String) : List String :=
  let ps := pieces text
  if ps.getLast? == some "" then ps.dropLast else ps

/-- **The steps of a pattern that starts at the root.** Reading a piece alone may fail where reading
the whole did not, since brackets may enclose a slash. -/
def steps (text : String) : Except Fault (List Step) := do
  let _ ← Pattern.parse text
  let ps ← (piecesTerminated (String.ofList (text.toList.drop 1))).mapM Pattern.parse
  return collapse (ps.map Step.ofPattern)

/-- Whether the name at the end of a path is the one that a step asks for. -/
def Step.fits (s : Step) (name : String) : Bool :=
  match s with
  | .name t => name == t
  | .some p => p.matches name.toList
  | .folders => false

/-- The paths to all that lies in a folder, at the given depth at most. -/
def below (t : Tree) : Nat → String → List String
  | 0, _ => []
  | depth + 1, path =>
    match t.names path with
    | .error _ => []
    | .ok names => names.flatMap fun n => join path n :: below t depth (join path n)

/-- No folder lies deeper in a tree. -/
def depth (t : Tree) : Nat := t.entries.foldl (fun d e => max d e.1.length) 0

/-- The last name of a path. -/
def lastName (path : String) : String := (pieces path).getLastD ""

/-- **Where steps lead to from a path.** -/
def reached (t : Tree) : List Step → String → List String
  | [], path => [path]
  | .name text :: ss, path =>
    let next := join path text
    let leads := if text == "." || text == ".." then t.isFolder path else t.exists? next
    if leads then reached t ss next else []
  | .folders :: [], path => (below t (depth t) path).filter t.isFolder
  | .folders :: s :: ss, path =>
    (below t (depth t) path).flatMap fun p => if s.fits (lastName p) then reached t ss p else []
  | .some pattern :: ss, path =>
    if !t.isFolder path then []
    else
      let names := ((t.names path).toOption.getD []).filter fun n => pattern.matches n.toList
      -- a dot is not a name in a folder, and is meant only by a pattern that starts with one
      let dots := if pattern.head? == .some (.char '.') then
          [".", ".."].filter fun d => pattern.matches d.toList
        else []
      (names ++ dots).flatMap fun n => reached t ss (join path n)

/-- **All files and folders that a pattern leads to**; folders only if it ends with a slash. -/
def search (t : Tree) (pattern : String) : Except Fault (List String) := do
  let found := reached t (← steps pattern) "/"
  return if pattern.endsWith "/" then found.filter t.isFolder else found

end EnvSchema.Glob
