import EnvSchema.Data.Toml.Draft
import EnvSchema.Data.Toml.Reader.Numbers
import EnvSchema.Data.Toml.Reader.Strings

/-!
# Keys and values in a document

The first character of a value says what kind of value it is. Arrays and tables in braces hold
values again; how deep they may stand in one another is bounded.

* `key` — a key with the path before it;
* `field` — a key and its value;
* `array`, `inlineTable` — values that hold values, where a reader of those is given;
* `value` — any value.
-/

namespace EnvSchema.Data.Toml

open Read

/-- How many arrays and tables in braces may stand in one another, or names on a path. -/
def maxDepth : Nat := 79

/-! ### Keys -/

/-- Whether a character may stand in a key without quotes. -/
def isKeyChar (c : Char) : Bool := c.isAlphanum || c == '-' || c == '_'

/-- One name of a key. -/
def simpleKey : Read Key := do
  let (name, span) ← spanned do
    match ← peek with
    | some '"' | some '\'' => lineString
    | _ =>
      let c ← oneOf isKeyChar
      let cs ← taking isKeyChar
      return String.ofList (c :: cs)
  return ⟨name, span⟩

/-- **A key with dots**: the path before the last name, and that name. -/
def key : Read (List Key × Key) :=
  checked
    (fun ks => if maxDepth < ks.length then .error .tooDeep else .ok (ks.dropLast, ks.getLastD default))
    (called .key (separated (char '.') do
      blanks
      let k ← simpleKey
      blanks
      return k))

/-- **A key and its value**, where a reader of values is given. Behind the key nothing is taken
back. -/
def field (value : Read Item) : Read Field := do
  let (path, key) ← key
  certain do
    wanting [.sign ".", .sign "="] (char '=')
    blanks
    return ⟨path, key, ← value⟩

/-! ### Values that hold values -/

/-- **An array**, where a reader of values is given. -/
def array (value : Read Item) : Read (List Item) := do
  char '['
  certain do
    let items ← softly (separated (char ',') do
      gaps
      let item ← value
      gaps
      return item)
    -- a comma may follow the last item, but not stand alone
    if items.isSome then
      let _ ← softly (char ',')
    gaps
    called .array (wanting [.sign "]"] (char ']'))
    return items.getD []

/-- **A table in braces**, where a reader of values is given. -/
def inlineTable (value : Read Item) : Read Table := do
  char '\x7b'
  certain do
    let table ← checked Table.ofFields do
      let fields ← softly (separated (char ',') do
        let f ← field value
        blanks
        return f)
      blanks
      return fields.getD []
    called .inlineTable (wanting [.sign "\x7d"] (char '\x7d'))
    return table

/-- A value, and where it is written. -/
def placedItem {α : Type} (read : Read α) (item : Span → α → Item) : Read Item := do
  let (a, span) ← spanned read
  return item span a

/-- A word that is taken for a string without quotes if it is another one. -/
def wordOr {α : Type} (read : Read α) : Read α :=
  called .string (wanting [.sign "\"", .sign "'"] read)

/-- A value that starts with a digit or a sign. -/
def numeral : Read Item :=
  orElse (placedItem moment fun s _ => .moment s)
    (orElse (placedItem float .real) (placedItem integer .whole))

/-- **Any value**, where readers of arrays and of tables in braces are given. -/
def valueWith (array : Read (List Item)) (inlineTable : Read Table) : Read Item := do
  match ← peek with
  | none => stop
  | some '"' | some '\'' => placedItem string .text
  | some '[' => placedItem array .list
  | some '\x7b' => placedItem inlineTable fun s t => .table { t with span := some s }
  | some '_' => wanting [.leadingDigit] (placedItem integer .whole)
  | some '.' => wanting [.leadingDigit] (placedItem float .real)
  | some 't' => wordOr (certain (placedItem (literal "true") fun s _ => .switch s true))
  | some 'f' => wordOr (certain (placedItem (literal "false") fun s _ => .switch s false))
  | some 'i' => wordOr (placedItem (literal "inf") fun s _ => .real s (1.0 / 0.0))
  | some 'n' => wordOr (placedItem (literal "nan") fun s _ => .real s (0.0 / 0.0))
  | some c => if c.isDigit || c == '+' || c == '-' then numeral else wordOr stop

/-- The end of what may stand in one another. -/
def tooDeep {α : Type} : Read α := fun cs =>
  .error { isFinal := true, cause := some .tooDeep, left := cs.length }

/-- **A value**, in which so many arrays and tables in braces may stand in one another. -/
def value : Nat → Read Item
  | 0 => valueWith tooDeep tooDeep
  | n + 1 => valueWith (array (value n)) (inlineTable (value n))

end EnvSchema.Data.Toml
