import EnvSchema.CommandLine.Fault
import EnvSchema.Text.Likeness

/-!
# Reading arguments

Arguments are read from the first to the last. A flag that takes a value takes the next argument,
unless that is a flag. What was given to a flag is looked at only when the next flag comes, or at
the end.

* `Given` — what has been given so far;
* `readIn` — the arguments in one scope;
* `read` — all arguments: what is asked for, or why not.
-/

namespace EnvSchema.CommandLine

/-- **What has been given.** -/
structure Given where
  /-- The flags, in the order in which they were given. -/
  flags : List Flag := []
  path : Option String := none
  config : Option String := none
  verbosity : Nat := 0
  /-- A flag that takes a value, with that value if it has been read. -/
  pending : Option (Flag × Option String) := none
  deriving Repr, DecidableEq, Inhabited

/-- **What is asked for.** -/
structure Request where
  command : Command
  /-- Whether settings are written over. -/
  force : Bool := false
  path : Option String := none
  config : Option String := none
  verbosity : Nat := 0
  deriving Repr, DecidableEq, Inhabited

/-- **Why nothing is done.** -/
inductive Stop where
  | fault (fault : Fault)
  | help (scope : Scope)
  | version (scope : Scope)
  deriving Repr, DecidableEq

/-- A fault, where nothing more is said of it. -/
def refuse {α : Type} (s : Scope) (kind : FaultKind) : Except Stop α := .error (.fault { scope := s, kind })

namespace Given

/-- Whether a flag waits for its value. -/
def isWaiting (g : Given) : Bool :=
  match g.pending with
  | some (_, none) => true
  | _ => false

/-- Gives a flag its value. -/
def give (s : Scope) (g : Given) (f : Flag) (value : String) : Except Stop Given :=
  if g.flags.contains f then refuse s (.repeated f)
  else if value.isEmpty then refuse s (.noValue f)
  else
    let g := { g with flags := g.flags ++ [f] }
    match f with
    | .path => .ok { g with path := some value }
    | .config => .ok { g with config := some value }
    | _ => .ok g

/-- Looks at what was given to the last flag. -/
def settle (s : Scope) (g : Given) : Except Stop Given :=
  let rest := { g with pending := none }
  match g.pending with
  | none => .ok rest
  | some (f, none) => refuse s (.noValue f)
  | some (f, some value) => rest.give s f value

/-- The flags that have been given, as far as they make sense. -/
def settledFlags (s : Scope) (g : Given) : List Flag :=
  match g.settle s with
  | .ok g => g.flags
  | .error _ => g.flags

/-- Takes a flag that has no value. -/
def switchOn (s : Scope) (g : Given) (f : Flag) : Except Stop Given := do
  let g ← g.settle s
  match f with
  | .help => .error (.help s)
  | .version => .error (.version s)
  | .verbose => return { g with verbosity := g.verbosity + 1, flags := g.flags.erase f ++ [f] }
  | f => if g.flags.contains f then refuse s (.repeated f) else return { g with flags := g.flags ++ [f] }

/-- Takes a flag that has a value, which may be attached to it. -/
def take (s : Scope) (g : Given) (f : Flag) (attached : Option String) : Except Stop Given := do
  let g ← g.settle s
  match attached with
  | some value => g.give s f value
  | none => return { g with pending := some (f, none) }

end Given

/-! ### Tips -/

/-- The flag of a scope that a name is most like. -/
def likeFlag? (s : Scope) (name : String) : Option Flag :=
  (Text.alike name (s.flags.map Flag.long)).getLast?.bind fun long => s.flags.find? fun f => f.long == long

/-- A flag of one of the commands that follow, the first of them, which a name is like. -/
def flagBehind? (s : Scope) (name : String) (following : List String) : Option Tip :=
  following.findSome? fun word =>
    (s.commands.find? fun c => c.name == word).bind fun c =>
      (likeFlag? (.behind c) name).map fun f => .flagBehind c.name f.long

/-- The fault of a flag that is not known. -/
def unknownLong (s : Scope) (g : Given) (name : String) (following : List String) : Stop :=
  let used := g.settledFlags s
  let shown (fs : List Flag) := fs.map Flag.shown
  let kind := .unexpected ("--" ++ name)
  match likeFlag? s name with
  | some f =>
    let used := if used.contains f then used else used ++ [f]
    .fault { scope := s, kind, tip := some (.flag f.long), parts := shown used }
  | none => .fault { scope := s, kind, tip := flagBehind? s name following, parts := shown used }

/-- The fault of a value that is given to a flag that takes none. -/
def valueGiven (s : Scope) (g : Given) (f : Flag) (value : String) : Stop :=
  let parts :=
    if g.flags.isEmpty then [f.shown]
    else (if s.ownFlags.contains f then [] else [f.shown]) ++ [s.choice]
  .fault { scope := s, kind := .valueGiven value f, parts }

/-- The fault of an argument that is neither a flag nor the value of one. -/
def misplaced (s : Scope) (isBehindDashes : Bool) (argument : String) : Stop :=
  let names := s.commands.map Command.name
  let similar := Text.alike argument names
  if isBehindDashes && names.contains argument then
    .fault { scope := s, kind := .unexpected argument, tip := some (.withoutDashes argument) }
  else if names.isEmpty then .fault { scope := s, kind := .unexpected argument }
  else if similar.isEmpty then .fault { scope := s, kind := .unknownCommand argument }
  else .fault { scope := s, kind := .unknownCommand argument, tip := some (.commands similar) }

/-! ### Arguments -/

/-- Reads an argument with a long name, behind its dashes. -/
def readLong (s : Scope) (g : Given) (word : List Char) (following : List String) : Except Stop Given :=
  let name := String.ofList (word.takeWhile (· != '='))
  let attached := match word.dropWhile (· != '=') with
    | [] => none
    | _ :: value => some (String.ofList value)
  match s.flags.find? fun f => f.long == name with
  | none => .error (unknownLong s g name following)
  | some f =>
    match f.value?, attached with
    | some _, attached => g.take s f attached
    | none, some value => .error (valueGiven s g f value)
    | none, none => g.switchOn s f

/-- Reads the letters of an argument, behind its dash. A letter that takes a value takes all that
follows. -/
def readLetters (s : Scope) : Given → List Char → Except Stop Given
  | g, [] => .ok g
  | g, c :: cs =>
    match s.flags.find? fun f => f.letter == c with
    | none => refuse s (.unexpected (String.ofList ['-', c]))
    | some f =>
      match f.value?, cs with
      | none, cs => do readLetters s (← g.switchOn s f) cs
      | some _, [] => g.take s f none
      | some _, '=' :: value => g.take s f (some (String.ofList value))
      | some _, value => g.take s f (some (String.ofList value))

/-- **Reads the arguments in a scope**, up to a command: what is given, and the command with what
follows it. -/
def readIn (s : Scope) : Given → List String → Except Stop (Given × Option (Command × List String))
  | g, [] => .ok (g, none)
  | g, a :: as =>
    let command := if g.isWaiting then none else s.commands.find? fun c => c.name == a
    match command, a.toList with
    | some c, _ => .ok (g, some (c, as))
    | none, ['-', '-'] =>
      match as with
      | [] => .ok (g, none)
      | b :: _ => .error (misplaced s true b)
    | none, '-' :: '-' :: word => do readIn s (← readLong s g word as) as
    | none, '-' :: c :: cs => do readIn s (← readLetters s g (c :: cs)) as
    | none, _ =>
      match g.pending with
      | some (f, none) => readIn s { g with pending := some (f, some a) } as
      | _ => .error (misplaced s false a)

/-- What the help is asked for. -/
def readHelp : Scope → List String → Stop
  | s, [] => .help s
  | s, name :: names =>
    match s.commands.find? fun c => c.name == name with
    | some c => readHelp (.behind c) names
    | none => .fault { scope := s, kind := .unknownCommand name }

/-- The arguments behind a command. -/
def readBehind (c : Command) (arguments : List String) : Except Stop Given :=
  match c with
  | .help => .error (readHelp .program arguments)
  | c => do return (← readIn (.behind c) {} arguments).1

/-- **Reads all arguments.** A variable of the environment, if it is set, stands for the flag with
the settings. -/
def read (variableConfig : Option String) (arguments : List String) : Except Stop Request := do
  let (g, command) ← readIn .program {} arguments
  let behind ← match command with
    | none => pure {}
    | some (c, rest) => readBehind c rest
  let g ← g.settle .program
  let g ← match variableConfig with
    | some value => if g.flags.contains .config then .ok g else g.give .program .config value
    | none => .ok g
  return { command := (command.map (·.1)).getD .check, force := behind.flags.contains .force
           path := g.path, config := g.config, verbosity := g.verbosity }

end EnvSchema.CommandLine
