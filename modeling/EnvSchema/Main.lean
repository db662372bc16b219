import EnvSchema.Program
import EnvSchema.Terminal.Answers

/-!
# The program at work

What the program does is decided elsewhere; here the files that it may look at are read, its user is
asked, and what comes of it is printed and put on the disk. The user is asked line by line: a line
stands for its keys, with Enter at the end.
-/

namespace EnvSchema.Disk

open Files (Tree Content join)

/-- The way to a path from the root. -/
def wayTo (path : String) : List String := (Files.pieces path).filter Files.isStep

/-- A tree with the file or folder at a path, if there is one on the disk. -/
def addEntry (t : Tree) (path : String) : IO Tree := do
  try
    let real ← IO.FS.realPath path
    if ← real.isDir then return t.withFolders (wayTo path)
    else return t.withFile (wayTo path) (.ofBytes (← IO.FS.readBinFile real).toList)
  catch _ => return t

/-- The names in a folder on the disk; none if there is no such folder. -/
def namesIn (path : String) : IO (List String) := do
  try
    let real ← IO.FS.realPath path
    return (← real.readDir).toList.map (·.fileName)
  catch _ => return []

/-- A tree with a folder and what lies in it, but not what lies deeper. -/
def addFolder (t : Tree) (path : String) : IO Tree := do
  (← namesIn path).foldlM (fun t n => addEntry t (join path n)) (← addEntry t path)

/-- A tree with a folder and all that lies below it, apart from what is passed over. -/
partial def addBelow (exclude : List String) (t : Tree) (path : String) : IO Tree := do
  let t ← addEntry t path
  let names := (← namesIn path).filter fun n => !exclude.contains n
  names.foldlM (fun t n => addBelow exclude t (join path n)) t

/-- A tree with all that lies on the way to a path. -/
def addWay (t : Tree) (path : String) : IO Tree :=
  (Files.ancestors path).reverse.foldlM addEntry t

/-- The variables of the process. -/
def environment : IO (List (List UInt8 × String)) := do
  let bytes := (← IO.FS.readBinFile "/proc/self/environ").toList
  return (bytes.splitOn 0).filterMap fun entry =>
    let name := entry.takeWhile (· != '='.toNat.toUInt8)
    let value := (entry.drop (name.length + 1)).toByteArray
    if name.length < entry.length then some (name, (String.fromUTF8? value).getD "") else none

/-- A tree with all that a request may look at. -/
def treeFor (w : World) (r : CommandLine.Request) : IO Tree := do
  let start := match r.path with
    | some p => join w.folder p
    | none => w.folder
  let t ← addWay .empty start
  let t ← addWay t (join w.folder w.logFolder)
  let t ← (Files.ancestors start).foldlM (fun t p => addEntry t (join p Project.manifestName)) t
  let t ← (r.config.toList.map (join w.folder) ++ w.settingsFile.toList).foldlM addWay t
  match Project.locate t start with
  | .error _ => return t
  | .ok root =>
    let t ← addFolder t root
    let settings := (((Config.loadProject t root).toOption.join).getD {} : ProjectSettings)
    let t ← addFolder t (join root settings.schema.envFolder)
    addBelow settings.scan.exclude t (join root settings.scan.folder)

/-- Puts on the disk what one tree has and another one lacks. -/
def save (before after : Tree) : IO Unit := do
  for (way, entry) in after.entries.reverse do
    if before.get? way != some entry then
      let path := "/" ++ "/".intercalate way
      match entry with
      | .folder => IO.FS.createDirAll path
      | .file (.text s) => IO.FS.writeFile path s
      | .file (.bytes b) => IO.FS.writeBinFile path b.toByteArray

/-! ### Asking -/

/-- An answer to a question. -/
inductive Answer where
  | confirm (answer : Except Refusal Bool)
  | pick (answer : Except Refusal FieldType)

/-- A user whose first answers are known, and who cannot be asked for more. -/
def known (answers : List Answer) : Prompter where
  confirm before _ :=
    match answers[before.length]? with
    | some (.confirm a) => a
    | _ => .error .noTerminal
  pick before _ _ :=
    match answers[before.length]? with
    | some (.pick a) => a
    | _ => .error .noTerminal

/-- The keys of the next line; none at the end of the input. -/
def nextKeys : IO (List Terminal.Key) := do
  let line ← (← IO.getStdin).getLine
  if line.isEmpty then return []
  return Terminal.Key.read (line.toList.filter (· != '\n')) ++ [.enter]

/-- Asks a question until it has an answer or the input ends. -/
partial def ask {α : Type} (question : String) (answer : List Terminal.Key → Except Refusal α) :
    IO (Except Refusal α) := do
  IO.print question
  (← IO.getStdout).flush
  let keys ← nextKeys
  match answer keys with
  | .error .canceled => if keys.isEmpty then return .error .canceled else ask question answer
  | a => return a

/-- Asks one of the questions of the program. -/
def answerTo : Question → IO Answer
  | .confirm name =>
    .confirm <$> ask ("Do you want to add $" ++ name ++ " to the schema? (Y/n) ") (Terminal.confirm [])
  | .pick name choices =>
    .pick <$> ask
      ("What type is $" ++ name ++ "? (we guessed the order) [" ++
        ", ".intercalate (choices.map FieldType.name) ++ "] ")
      (Terminal.pick choices [] 0)

/-- Runs the program with the answers that are known, asks for the next one, and starts again. What
has been printed before is not printed again. -/
partial def converse (w : World) (arguments : List String) (answers : List Answer) (printed : Nat) :
    IO Outcome := do
  let o := run { w with prompter := known answers } arguments
  let more ← match o.asked[answers.length]? with
    | some q => if ← (← IO.getStdin).isTty then pure (some q) else pure none
    | none => pure none
  IO.print (String.ofList (o.output.toList.drop printed))
  match more with
  | some q => converse w arguments (answers ++ [← answerTo q]) o.output.length
  | none => return o

end EnvSchema.Disk

open EnvSchema in
/-- Runs the program. -/
def main (arguments : List String) : IO UInt32 := do
  let folder := (← IO.currentDir).toString
  let w : World :=
    { tree := .empty, folder, environment := ← Disk.environment, prompter := Disk.known [] }
  let tree ← match CommandLine.read (w.valueOf "ENVCHECK_CONFIG") arguments with
    | .ok r => Disk.treeFor w r
    | .error _ => pure .empty
  let o ← Disk.converse { w with tree } arguments [] 0
  IO.eprint o.errors
  Disk.save tree o.tree
  return o.code.toUInt32
