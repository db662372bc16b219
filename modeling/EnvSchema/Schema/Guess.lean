import EnvSchema.Schema.FieldType
import EnvSchema.Text.Capitals
import EnvSchema.Text.Regexp

/-!
# Guessing a type from a name

Names of variables are made of words with low lines between them, and some words tell what the
variable holds. They are searched for in the name as it is in capitals.

* `aWord`, `firstWord`, `lastWord` — expressions for words at places in a name;
* `urlNames`, `numberNames`, `switchNames` — the names that suggest a type;
* `guess` — the type that a name suggests;
* `ranked` — all types, the suggested one first;
* `ranked_perm` — every type is offered exactly once.
-/

namespace EnvSchema

open Text (Regexp)

/-- What stands between words. -/
def lowLine : Regexp := .oneOf ["_"]

/-- One of some words, with nothing before it or a low line, and likewise behind it. -/
def aWord (words : List String) : Regexp :=
  (Regexp.start.either lowLine).seq ((Regexp.oneOf words).seq (Regexp.finish.either lowLine))

/-- One of some words at the start, with more behind it. -/
def firstWord (words : List String) : Regexp := Regexp.start.seq ((Regexp.oneOf words).seq lowLine)

/-- One of some words at the end, with more before it. -/
def lastWord (words : List String) : Regexp := lowLine.seq ((Regexp.oneOf words).seq .finish)

/-- Words of names that hold addresses. -/
def urlWords : List String := ["URL", "URI"]

/-- Words of names that hold numbers. -/
def numberWords : List String :=
  ["PORT", "COUNT", "SIZE", "TIMEOUT", "MS", "TTL", "LIMIT", "MAX", "MIN", "RETRIES"]

/-- First words of longer names that say yes or no. -/
def switchStarts : List String := ["IS", "ENABLE", "DISABLE", "USE", "HAS"]

/-- Last words of longer names that say yes or no. -/
def switchEnds : List String := ["ENABLED", "DISABLED"]

/-- Names that hold addresses. -/
def urlNames : Regexp := aWord urlWords

/-- Names that hold numbers. -/
def numberNames : Regexp := aWord numberWords

/-- Names that say yes or no. -/
def switchNames : Regexp :=
  (firstWord switchStarts).either ((lastWord switchEnds).either (aWord ["DEBUG"]))

/-- **The type that a name suggests.** -/
def guess (name : String) : FieldType :=
  let capitals := Text.upper name.toList
  if urlNames.isFound capitals then .url
  else if numberNames.isFound capitals then .number
  else if switchNames.isFound capitals then .boolean
  else .text

/-- **All types, the suggested one first.** -/
def ranked (name : String) : List FieldType :=
  guess name :: FieldType.all.filter (· ≠ guess name)

/-- Every type is offered exactly once. -/
theorem ranked_perm (name : String) : (ranked name).Perm FieldType.all := by
  unfold ranked
  generalize guess name = t
  cases t <;> decide

end EnvSchema
