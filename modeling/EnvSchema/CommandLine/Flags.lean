/-!
# Commands and flags

The program has commands, and flags stand before a command or behind it. Which ones are known hangs
on the place.

* `Command` — what the program can be asked to do;
* `Flag` — what can be set;
* `Scope` — where arguments stand: before a command or behind it;
* `Scope.usage` — how a scope is called.
-/

namespace EnvSchema.CommandLine

/-- **The names of the commands.** -/
inductive Command where
  | check
  | scan
  | init
  | help
  deriving Repr, DecidableEq, Inhabited

namespace Command

/-- All commands, in the order in which they are shown. -/
def all : List Command := [check, scan, init, help]

/-- The name of a command. -/
def name : Command → String
  | check => "check"
  | scan => "scan"
  | init => "init"
  | help => "help"

/-- What is said of a command. -/
def about : Command → String
  | check => "Check the env schema and interactively add missing variables (default)"
  | scan => "Report missing variables without prompting or writing"
  | init => "Initialize envcheck configuration for this project"
  | help => "Print this message or the help of the given subcommand(s)"

end Command

/-- **What can be set.** -/
inductive Flag where
  | path
  | verbose
  | config
  | force
  | help
  | version
  deriving Repr, DecidableEq, Inhabited

namespace Flag

/-- The long name of a flag. -/
def long : Flag → String
  | path => "path"
  | verbose => "verbose"
  | config => "config"
  | force => "force"
  | help => "help"
  | version => "version"

/-- The letter of a flag. -/
def letter : Flag → Char
  | path => 'p'
  | verbose => 'v'
  | config => 'c'
  | force => 'f'
  | help => 'h'
  | version => 'V'

/-- How the value of a flag is named, if it takes one. -/
def value? : Flag → Option String
  | path => some "PATH"
  | config => some "FILE"
  | _ => none

/-- What is said of a flag. -/
def about : Flag → String
  | path => "Directory to start looking for the project from (defaults to current directory)"
  | verbose => "Enable verbose logging"
  | config => "Configuration file path"
  | force => "Force overwrite existing configuration"
  | help => "Print help"
  | version => "Print version"

/-- A flag as it is written out: dots say that it may be given more than once. -/
def shown (f : Flag) : String :=
  "--" ++ f.long ++
    match f.value? with
    | some v => " <" ++ v ++ ">"
    | none => if f = verbose then "..." else ""

end Flag

/-- **Where arguments stand.** -/
inductive Scope where
  /-- Before a command. -/
  | program
  /-- Behind a command. -/
  | behind (command : Command)
  deriving Repr, DecidableEq, Inhabited

namespace Scope

/-- What a scope knows of its own. -/
def ownFlags : Scope → List Flag
  | program => [.path, .verbose, .config]
  | behind .init => [.force]
  | behind _ => []

/-- All flags that a scope knows. -/
def flags : Scope → List Flag
  | behind .help => []
  | s => s.ownFlags ++ [.help, .version]

/-- The commands that may follow. -/
def commands : Scope → List Command
  | program => Command.all
  | behind _ => []

/-- The words with which a scope is called. -/
def called : Scope → String
  | program => "envcheck"
  | behind c => "envcheck " ++ c.name

/-- **How a scope is called.** -/
def usage : Scope → String
  | program => "Usage: envcheck [OPTIONS] [COMMAND]"
  | behind .help => "Usage: envcheck help [COMMAND]..."
  | behind .init => "Usage: envcheck init [OPTIONS]"
  | s => "Usage: " ++ s.called

/-- How a scope is called with some flags. -/
def usageWith (s : Scope) (parts : List String) : String :=
  if parts.isEmpty then s.usage else "Usage: " ++ " ".intercalate (s.called :: parts)

/-- The flags of a scope that may stand for one another. -/
def choice (s : Scope) : String := "<" ++ "|".intercalate (s.ownFlags.map Flag.shown) ++ ">"

end Scope

/-- What the version of a scope is. -/
def version : Scope → String
  | .program => "envcheck 0.1.0"
  | .behind c => "envcheck-" ++ c.name ++ " 0.1.0"

end EnvSchema.CommandLine
