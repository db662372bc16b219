import EnvSchema.CommandLine.Flags

/-!
# Help

* `help` — what is said of a scope: what it does, how it is called, its commands and its flags.
-/

namespace EnvSchema.CommandLine

/-- A text filled up with blanks. -/
def padded (width : Nat) (s : String) : String :=
  s ++ String.ofList (List.replicate (width - s.length) ' ')

/-- A table with names and what is said of them. -/
def helpTable (rows : List (String × String)) : String :=
  let width := (rows.map fun r => r.1.length).foldl max 0
  String.join (rows.map fun (name, about) => "  " ++ padded width name ++ "  " ++ about ++ "\n")

/-- What is said of a flag, where a variable of the environment stands for one of them. -/
def flagRow (value : String) (f : Flag) : String × String :=
  let about := if f = .config then f.about ++ " [env: ENVCHECK_CONFIG=" ++ value ++ "]" else f.about
  ("-" ++ f.letter.toString ++ ", " ++ f.shown, about)

/-- What the program or one of its commands does. -/
def Scope.about : Scope → String
  | program => "Find process.env usages missing from your zod env schema"
  | behind c => c.about

/-- A heading with what stands below it; nothing where nothing does. -/
def helpSection (heading : String) (rows : List (String × String)) : String :=
  if rows.isEmpty then "" else "\n" ++ heading ++ ":\n" ++ helpTable rows

/-- What a scope takes that is no flag. -/
def Scope.arguments : Scope → List (String × String)
  | behind .help => [("[COMMAND]...", "Print help for the subcommand(s)")]
  | _ => []

/-- **What is said of a scope**, where `config` is the value of the variable that stands for the
flag. -/
def help (s : Scope) (config : String) : String :=
  s.about ++ "\n\n" ++ s.usage ++ "\n" ++
    helpSection "Commands" (s.commands.map fun c => (c.name, c.about)) ++
    helpSection "Arguments" s.arguments ++
    helpSection "Options" (s.flags.map (flagRow config))

end EnvSchema.CommandLine
