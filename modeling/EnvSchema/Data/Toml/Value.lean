/-!
# Documents

A document is a table: keys with values, of which some are tables again. Each value knows where in
the text it is written, so that what is amiss with it can be shown there.

* `Span`, `Key` — where something is written, and a key with its place;
* `Item` — a value;
* `Table` — keys with values, in the order in which they were met.
-/

namespace EnvSchema.Data.Toml

/-- **A stretch of a text**, by how many characters are left in the text from its first character
on, and how many are left behind its last one. -/
structure Span where
  start : Nat
  stop : Nat
  deriving Repr, DecidableEq, Inhabited

/-- **A key**, and where it is written. -/
structure Key where
  name : String
  span : Span
  deriving Repr, DecidableEq, Inhabited

/-- **How a table came to be.** -/
inductive TableForm where
  /-- It has a header of its own, or is the document. -/
  | header
  /-- It was named on the way to a table with a header. -/
  | onTheWay
  /-- It was named before a dot in a key. -/
  | dotted
  /-- It is written in braces. -/
  | braces
  deriving Repr, DecidableEq, Inhabited

/-- Whether a table was only named, and may still get a header or more keys behind dots. -/
def TableForm.isImplicit : TableForm → Bool
  | onTheWay | dotted => true
  | header | braces => false

/-- A table with values of some type. -/
structure TableOf (α : Type) where
  form : TableForm
  /-- Where it is written, from its header on. -/
  span : Option Span := none
  entries : List (Key × α) := []

/-- **A value.** -/
inductive Item where
  | text (span : Span) (s : String)
  | whole (span : Span) (n : Int)
  | real (span : Span) (x : Float)
  | switch (span : Span) (b : Bool)
  /-- A date, a time of day or both. What it says is not kept. -/
  | moment (span : Span)
  | list (span : Span) (items : List Item)
  | table (table : TableOf Item)
  /-- Tables whose headers stand in double brackets. -/
  | tables (tables : List (TableOf Item))

instance : Inhabited Item := ⟨.tables []⟩

/-- **A table.** -/
abbrev Table := TableOf Item

instance : Inhabited Table := ⟨{ form := .header }⟩

namespace Table

/-- The value of a key. -/
def find? (t : Table) (name : String) : Option Item :=
  (t.entries.find? fun e => e.1.name == name).map (·.2)

/-- A table with another value of a key: a new key comes last, and one that is there keeps its
place. -/
def insert (t : Table) (key : Key) (value : Item) : Table :=
  if (t.find? key.name).isSome then
    { t with entries := t.entries.map fun e => if e.1.name == key.name then (e.1, value) else e }
  else { t with entries := t.entries ++ [(key, value)] }

/-- A table without a key. -/
def erase (t : Table) (name : String) : Table :=
  { t with entries := t.entries.filter fun e => e.1.name != name }

/-- Other keys are where they were. -/
theorem find?_erase_of_ne {t : Table} {name other : String} (h : other ≠ name) :
    (t.erase name).find? other = t.find? other := by
  simp only [find?, erase, List.find?_filter]
  congr 2
  funext e
  by_cases he : e.1.name = other <;> simp [he, h]

end Table

/-- Where a value is written. A table that was only named is written nowhere. -/
def Item.span? : Item → Option Span
  | text s _ | whole s _ | real s _ | switch s _ | moment s | list s _ => some s
  | table t => t.span
  | tables ts => do
    let first ← (← ts.head?).span
    let last ← (← ts.getLast?).span
    return ⟨first.start, last.stop⟩

/-- How the kind of a value is named. -/
def Item.kind : Item → String
  | text .. => "string"
  | whole .. => "integer"
  | real .. => "float"
  | switch .. => "boolean"
  | moment _ => "datetime"
  | list .. => "array"
  | table t => if t.form = .braces then "inline table" else "table"
  | tables _ => "array of tables"

end EnvSchema.Data.Toml
