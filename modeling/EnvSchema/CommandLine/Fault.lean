import EnvSchema.CommandLine.Flags

/-!
# Arguments that make no sense

* `Tip` — what may have been meant;
* `Fault` — what is wrong with the arguments;
* `Fault.message` — what is said of it.
-/

namespace EnvSchema.CommandLine

/-- **What may have been meant.** -/
inductive Tip where
  /-- A flag with a name like the one given. -/
  | flag (name : String)
  /-- A flag of a command that is given as well. -/
  | flagBehind (command name : String)
  /-- A command, which two dashes before it keep from being one. -/
  | withoutDashes (command : String)
  /-- Commands with names like the one given. -/
  | commands (names : List String)
  deriving Repr, DecidableEq

/-- How a tip is given. -/
def Tip.message : Tip → String
  | flag name => "a similar argument exists: '--" ++ name ++ "'"
  | flagBehind command name => "'" ++ command ++ " --" ++ name ++ "' exists"
  | withoutDashes command => "subcommand '" ++ command ++ "' exists; to use it, remove the '--' before it"
  | commands [name] => "a similar subcommand exists: '" ++ name ++ "'"
  | commands names =>
    "some similar subcommands exist: " ++ ", ".intercalate (names.map fun n => "'" ++ n ++ "'")

/-- **What is wrong with the arguments.** -/
inductive FaultKind where
  | unknownCommand (name : String)
  | unexpected (argument : String)
  /-- A flag that takes no value is given one. -/
  | valueGiven (value : String) (flag : Flag)
  | repeated (flag : Flag)
  | noValue (flag : Flag)
  deriving Repr, DecidableEq

/-- How a fault is named. -/
def FaultKind.message : FaultKind → String
  | unknownCommand name => "unrecognized subcommand '" ++ name ++ "'"
  | unexpected argument => "unexpected argument '" ++ argument ++ "' found"
  | valueGiven value flag =>
    "unexpected value '" ++ value ++ "' for '" ++ flag.shown ++ "' found; no more were expected"
  | repeated flag => "the argument '" ++ flag.shown ++ "' cannot be used multiple times"
  | noValue flag => "a value is required for '" ++ flag.shown ++ "' but none was supplied"

/-- **A fault where it was met.** -/
structure Fault where
  scope : Scope
  kind : FaultKind
  tip : Option Tip := none
  /-- How the scope is called, in parts; all of it if there are none. -/
  parts : List String := []
  deriving Repr, DecidableEq

/-- **What is said of a fault.** Where a value is lacking, what is called need not be shown; the
help of the help has no help. -/
def Fault.message (f : Fault) : String :=
  let usage := match f.kind with
    | .noValue _ => ""
    | _ => "\n\n" ++ f.scope.usageWith f.parts
  let help := if f.scope.flags.contains .help then "\n\nFor more information, try '--help'." else ""
  "error: " ++ f.kind.message ++ ((f.tip.map fun t => "\n\n  tip: " ++ t.message).getD "") ++ usage ++
    help ++ "\n"

end EnvSchema.CommandLine
