import EnvSchema.Text.Quoted

/-!
# Types of fields

The types that a variable may be given in the schema, and how a field of each type is written.

* `FieldType.expression?` — the call that checks a value of the type;
* `fieldKey` — the key of the field of a variable;
* `fieldText?` — the whole field.
-/

namespace EnvSchema

/-- **The types that a variable may be given.** -/
inductive FieldType where
  | text
  | url
  | number
  | boolean
  /-- None of the others: the field is written by hand. -/
  | other
  deriving Repr, DecidableEq, Inhabited

namespace FieldType

/-- All types, in the order in which they are offered if no guess can be made. -/
def all : List FieldType := [text, url, number, boolean, other]

/-- Every type is offered. -/
theorem mem_all (t : FieldType) : t ∈ all := by cases t <;> decide

/-- How a type is shown. -/
def name : FieldType → String
  | text => "string"
  | url => "url"
  | number => "number"
  | boolean => "boolean"
  | other => "other"

/-- **The call that checks a value**, where the library goes by the given name. -/
def expression? (space : String) : FieldType → Option String
  | text => some (space ++ ".string()")
  | url => some (space ++ ".string().url()")
  | number => some (space ++ ".number()")
  | boolean => some (space ++ ".boolean()")
  | other => none

/-- Only a type that is none of the others has no call. -/
theorem expression?_eq_none_iff {space : String} {t : FieldType} :
    t.expression? space = none ↔ t = other := by
  cases t <;> simp [expression?]

end FieldType

/-- Whether a character may start a key that needs no quotes. -/
def startsKey (c : Char) : Bool := c.isAlpha || c == '_' || c == '$'

/-- Whether a key needs no quotes. -/
def isPlainKey (name : String) : Bool :=
  match name.toList with
  | [] => false
  | c :: cs => startsKey c && cs.all fun c => startsKey c || c.isDigit

/-- **The key of the field of a variable.** -/
def fieldKey (name : String) : String := if isPlainKey name then name else Text.quoted name

/-- **The field of a variable**, if its type has a call. -/
def fieldText? (name : String) (type : FieldType) (space : String) : Option String :=
  (type.expression? space).map fun e => fieldKey name ++ ": " ++ e

end EnvSchema
