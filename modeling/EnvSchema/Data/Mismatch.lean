import EnvSchema.Number.Shortest
import EnvSchema.Text.Shown

/-!
# Values of another kind

What is said of a value that was found where one of another kind was expected.

* `Found` — what was found;
* `mismatch` — the sentence that names it and what was expected instead.
-/

namespace EnvSchema.Data

/-- **A value that was not expected.** -/
inductive Found where
  | nothing
  | switch (b : Bool)
  | whole (n : Int)
  /-- A number with a point, as it is written. -/
  | real (digits : String)
  | text (s : String)
  | list
  | table
  deriving Repr, DecidableEq

/-- How a value that was not expected is named. -/
def Found.message : Found → String
  | nothing => "null"
  | switch b => "boolean `" ++ toString b ++ "`"
  | whole n => "integer `" ++ toString n ++ "`"
  | real digits => "floating point `" ++ digits ++ "`"
  | text s => "string " ++ Text.shownText s
  | list => "sequence"
  | table => "map"

/-- **What is said of a value of another kind.** -/
def mismatch (found : Found) (expected : String) : String :=
  "invalid type: " ++ found.message ++ ", expected " ++ expected

end EnvSchema.Data
