import EnvSchema.Data.Mismatch
import EnvSchema.Data.Toml.Value
import EnvSchema.Text.Columns

/-!
# What is amiss with a document

* `Label`, `Expected`, `Cause` — what was being read, what could have come next, and why a thing
  that can be read must not stand there;
* `Fault` — what is amiss with the text of a document, or with a value in it;
* `Complaint.report` — a fault with the line that it is in.
-/

namespace EnvSchema.Data.Toml

/-- **What was being read.** -/
inductive Label where
  | key
  | tableHeader
  | array
  | inlineTable
  | basicString
  | basicLines
  | literalString
  | literalLines
  | escape
  | shortCode
  | longCode
  | integer
  | hexadecimal
  | octal
  | binary
  | float
  | dateTime
  | time
  | timeOffset
  /-- A value that is none of the others is taken for a string without quotes. -/
  | string
  deriving Repr, DecidableEq

/-- How it is named. -/
def Label.name : Label → String
  | key => "key"
  | tableHeader => "table header"
  | array => "array"
  | inlineTable => "inline table"
  | basicString => "basic string"
  | basicLines => "multiline basic string"
  | literalString => "literal string"
  | literalLines => "multiline literal string"
  | escape => "escape sequence"
  | shortCode => "unicode 4-digit hex code"
  | longCode => "unicode 8-digit hex code"
  | integer => "integer"
  | hexadecimal => "hexadecimal integer"
  | octal => "octal integer"
  | binary => "binary integer"
  | float => "floating-point number"
  | dateTime => "date-time"
  | time => "time"
  | timeOffset => "time offset"
  | string => "string"

/-- **What could have come next.** -/
inductive Expected where
  | sign (text : String)
  | newline
  | digit
  | leadingDigit
  deriving Repr, DecidableEq

/-- How it is named. -/
def Expected.name : Expected → String
  | sign text => "`" ++ text ++ "`"
  | newline => "newline"
  | digit => "digit"
  | leadingDigit => "leading digit"

/-- **Why a thing that can be read must not stand there.** -/
inductive Cause where
  /-- A key has a value already; the table is named if that is of use. -/
  | duplicate (key : String) (table : Option (List String))
  /-- A key leads into a value that is no table. -/
  | notTable (path : List String) (kind : String)
  | outOfRange
  | tooLarge
  | tooSmall
  /-- Too many things stand in one another. -/
  | tooDeep
  deriving Repr, DecidableEq

/-- How a cause is reported. -/
def Cause.message : Cause → String
  | duplicate key none => "duplicate key `" ++ key ++ "`"
  | duplicate key (some []) => "duplicate key `" ++ key ++ "` in document root"
  | duplicate key (some table) => "duplicate key `" ++ key ++ "` in table `" ++ ".".intercalate table ++ "`"
  | notTable path kind =>
    "dotted key `" ++ ".".intercalate path ++ "` attempted to extend non-table type (" ++ kind ++ ")"
  | outOfRange => "value is out of range"
  | tooLarge => "number too large to fit in target type"
  | tooSmall => "number too small to fit in target type"
  | tooDeep => "recursion limit exceeded"

/-- **What is amiss with a value** that was asked for something else. -/
inductive ValueFault where
  | mismatch (found : Found) (expected : String)
  | unknownVariant (name : String) (known : List String)
  /-- Neither a string nor a table stands where one of some names is asked for. -/
  | noName
  /-- A table that is asked for one name has none, or more than one. -/
  | manyNames (isEmpty : Bool)
  /-- There is something in a table or list behind a name that takes nothing. -/
  | notEmpty (kind : String)
  /-- Another value stands behind a name that takes nothing. -/
  | notTable (kind : String)
  deriving Repr, DecidableEq

/-- How the fault of a value is reported. -/
def ValueFault.message : ValueFault → String
  | mismatch found expected => Data.mismatch found expected
  | unknownVariant name known =>
    "unknown variant `" ++ name ++ "`, expected " ++
      " or ".intercalate (known.map fun k => "`" ++ k ++ "`")
  | noName => "wanted string or table"
  | manyNames true => "wanted exactly 1 element, found 0 elements"
  | manyNames false => "wanted exactly 1 element, more than 1 element"
  | notEmpty kind => "expected empty " ++ kind
  | notTable kind => "expected table, found " ++ kind

/-- **What is amiss with a document.** -/
inductive Fault where
  /-- Its text cannot be read. -/
  | text (label : Option Label) (expected : List Expected) (cause : Option Cause)
  | value (fault : ValueFault)
  deriving Repr, DecidableEq

/-- How a fault is reported. -/
def Fault.message : Fault → String
  | text label expected cause =>
    let expected := match expected with
      | [] => []
      | es => ["expected " ++ ", ".intercalate (es.map Expected.name)]
    "\n".intercalate
      ((label.map fun l => "invalid " ++ l.name).toList ++ expected ++ (cause.map Cause.message).toList)
  | value fault => fault.message

/-- **A fault, and where it is.** -/
structure Complaint where
  fault : Fault
  span : Span
  deriving Repr, DecidableEq

/-- A text before and from a place on. At the end of a text that is not empty, the place is its last
character, and one more column is counted. -/
def placed (text : List Char) (left : Nat) : List Char × List Char × Nat :=
  let n := text.length - left
  if n < text.length ∨ text = [] then (text.take n, text.drop n, 0)
  else (text.take (n - 1), text.drop (n - 1), 1)

/-- The characters of a line before a place. They are counted one by one, unless a character beyond
ASCII stands at the place: then bytes are counted. -/
def columnOf (before : List Char) (next : Option Char) (isEnd : Bool) : Nat :=
  if !isEnd && next.any fun c => 0x80 ≤ c.toNat then Text.bytes before else before.length

/-- **A complaint as it is reported**: with the line that the fault starts in, and marks below
it. -/
def Complaint.report (c : Complaint) (document : String) : String :=
  let text := document.toList
  let (before, rest, more) := placed text c.span.start
  let line := before.count '\n'
  let inLine := (before.reverse.takeWhile (· != '\n')).reverse
  let column := columnOf inLine rest.head? (more != 0) + more
  let content := inLine ++ rest.takeWhile (· != '\n')
  let marked := Text.bytes ((text.drop (text.length - c.span.start)).take (c.span.start - c.span.stop))
  let marks := min marked (Text.bytes content - column)
  let number := toString (line + 1)
  let gutter := String.ofList (List.replicate (number.length + 1) ' ') ++ "|"
  "TOML parse error at line " ++ number ++ ", column " ++ toString (column + 1) ++ "\n" ++
    gutter ++ "\n" ++
    number ++ " | " ++ String.ofList content ++ "\n" ++
    gutter ++ String.ofList (List.replicate (column + 1) ' ' ++ List.replicate (max 1 marks) '^') ++ "\n" ++
    c.fault.message ++ "\n"

end EnvSchema.Data.Toml
