import EnvSchema.Data.Toml.Reader.Basic
import EnvSchema.Number.Reading

/-!
# Strings in a document

A basic string stands in double quotes, and in it a backslash starts an escape; a literal string
stands in single quotes, and all in it stands for itself. With three quotes on each side either one
may go over several lines.

* `basicBody`, `basicLinesBody` — what stands between double quotes;
* `literalLinesBody` — what stands between three single quotes;
* `string` — any string.
-/

namespace EnvSchema.Data.Toml

open Read

/-- Whether a character stands for itself between double quotes. -/
def isBasicChar (c : Char) : Bool := isVisible c && c != '"' && c != '\\'

/-- Whether a character stands for itself between single quotes. -/
def isLiteralChar (c : Char) : Bool := isVisible c && c != '\''

/-! ### Escapes -/

/-- The character that a letter behind a backslash stands for. -/
def escaped? : Char → Option Char
  | 'b' => some '\x08'
  | 'f' => some '\x0c'
  | 'n' => some '\n'
  | 'r' => some '\r'
  | 't' => some '\t'
  | '\\' => some '\\'
  | '"' => some '"'
  | _ => none

/-- What may stand behind a backslash. -/
def escapeSigns : List Expected := ["b", "f", "n", "r", "t", "u", "U", "\\", "\""].map .sign

/-- The character with the code that hexadecimal digits say, where so many characters are left. -/
def ofCode (label : Label) (digits : List Char) (left : Nat) : Except Stop Char :=
  match digits.mapM (Number.digitValue? 16) with
  | none => .error { isFinal := true, label := label, left := left }
  | some ds =>
    let code := ds.foldl (fun n d => 16 * n + d) 0
    if h : code.isValidChar then .ok (Char.ofNatAux code h)
    else .error { isFinal := true, label := label, cause := some .outOfRange, left := left }

/-- Where an escape cannot be read, and so many characters are left behind its letter. -/
def noEscape (left : Nat) : Stop :=
  { isFinal := true, label := some .escape, expected := escapeSigns, left := left }

/-- Where what stands in quotes ends without a quote. -/
def unclosed (label : Label) (cs : List Char) : Stop :=
  { isFinal := true, label := some label, left := cs.length }

/-! ### Basic strings -/

/-- What stands between double quotes, and what is left behind the closing one. -/
def basicBody : List Char → Except Stop (List Char × List Char)
  | '"' :: cs => .ok ([], cs)
  | ['\\'] => .error (unclosed .basicString ['\\'])
  | '\\' :: 'u' :: a :: b :: c :: d :: cs => do
    let x ← ofCode .shortCode [a, b, c, d] (cs.length + 4)
    let (xs, rest) ← basicBody cs
    return (x :: xs, rest)
  | '\\' :: 'U' :: a :: b :: c :: d :: e :: f :: g :: h :: cs => do
    let x ← ofCode .longCode [a, b, c, d, e, f, g, h] (cs.length + 8)
    let (xs, rest) ← basicBody cs
    return (x :: xs, rest)
  | '\\' :: x :: cs =>
    match escaped? x with
    | some y => do
      let (xs, rest) ← basicBody cs
      return (y :: xs, rest)
    | none =>
      if x = 'u' then .error (unclosed .shortCode cs)
      else if x = 'U' then .error (unclosed .longCode cs)
      else .error (noEscape cs.length)
  | c :: cs =>
    if isBasicChar c then do
      let (xs, rest) ← basicBody cs
      return (c :: xs, rest)
    else .error (unclosed .basicString (c :: cs))
  | [] => .error (unclosed .basicString [])

/-- Whether a backslash is followed by nothing on its line. -/
def endsLine (cs : List Char) : Bool := (behindNewline? (cs.dropWhile isBlank)).isSome

/-- What stands between three double quotes on each side, and what is left behind the closing ones.
A backslash at the end of a line takes away all blanks and ends of lines up to the next character;
while that goes on, `isJoining` holds. -/
def basicLinesBody (isJoining : Bool) : List Char → Except Stop (List Char × List Char)
  | '"' :: '"' :: '"' :: '"' :: '"' :: cs => .ok (['"', '"'], cs)
  | '"' :: '"' :: '"' :: '"' :: cs => .ok (['"'], cs)
  | '"' :: '"' :: '"' :: cs => .ok ([], cs)
  | ['"', '"'] => .error (unclosed .basicLines ['"', '"'])
  | ['"'] => .error (unclosed .basicLines ['"'])
  | '"' :: cs => do
    let (xs, rest) ← basicLinesBody false cs
    return ('"' :: xs, rest)
  | ['\\'] => .error (unclosed .basicLines ['\\'])
  | '\\' :: 'u' :: a :: b :: c :: d :: cs => do
    let x ← ofCode .shortCode [a, b, c, d] (cs.length + 4)
    let (xs, rest) ← basicLinesBody false cs
    return (x :: xs, rest)
  | '\\' :: 'U' :: a :: b :: c :: d :: e :: f :: g :: h :: cs => do
    let x ← ofCode .longCode [a, b, c, d, e, f, g, h] (cs.length + 8)
    let (xs, rest) ← basicLinesBody false cs
    return (x :: xs, rest)
  | '\\' :: x :: cs =>
    if endsLine (x :: cs) then basicLinesBody true (x :: cs)
    else
      match escaped? x with
      | some y => do
        let (xs, rest) ← basicLinesBody false cs
        return (y :: xs, rest)
      | none =>
        if x = 'u' then .error (unclosed .shortCode cs)
        else if x = 'U' then .error (unclosed .longCode cs)
        else .error (noEscape cs.length)
  | '\r' :: '\n' :: cs => do
    let (xs, rest) ← basicLinesBody isJoining cs
    return (if isJoining then xs else '\n' :: xs, rest)
  | c :: cs =>
    if isBasicChar c || c == '\n' then do
      let isDropped := isJoining && (isBlank c || c == '\n')
      let (xs, rest) ← basicLinesBody isDropped cs
      return (if isDropped then xs else c :: xs, rest)
    else .error (unclosed .basicLines (c :: cs))
  | [] => .error (unclosed .basicLines [])

/-! ### Literal strings -/

/-- What stands between single quotes, and what is left behind the closing one. -/
def literalBody : List Char → Except Stop (List Char × List Char)
  | '\'' :: cs => .ok ([], cs)
  | c :: cs =>
    if isLiteralChar c then do
      let (xs, rest) ← literalBody cs
      return (c :: xs, rest)
    else .error (unclosed .literalString (c :: cs))
  | [] => .error (unclosed .literalString [])

/-- Whether more of a literal string may come next, apart from quotes. -/
def goesOn (cs : List Char) : Bool := (behindNewline? cs).isSome || cs.head?.any isLiteralChar

/-- What stands between three single quotes on each side, and what is left behind the closing
ones. -/
def literalLinesBody : List Char → Except Stop (List Char × List Char)
  | '\'' :: '\'' :: '\'' :: '\'' :: '\'' :: cs => .ok (['\'', '\''], cs)
  | '\'' :: '\'' :: '\'' :: '\'' :: cs => .ok (['\''], cs)
  | '\'' :: '\'' :: '\'' :: cs => .ok ([], cs)
  | '\'' :: '\'' :: cs =>
    if goesOn cs then do
      let (xs, rest) ← literalLinesBody cs
      return ('\'' :: '\'' :: xs, rest)
    else .error (unclosed .literalLines ('\'' :: '\'' :: cs))
  | '\'' :: cs =>
    if goesOn cs then do
      let (xs, rest) ← literalLinesBody cs
      return ('\'' :: xs, rest)
    else .error (unclosed .literalLines ('\'' :: cs))
  | '\r' :: '\n' :: cs => do
    let (xs, rest) ← literalLinesBody cs
    return ('\n' :: xs, rest)
  | c :: cs =>
    if isLiteralChar c || c == '\n' then do
      let (xs, rest) ← literalLinesBody cs
      return (c :: xs, rest)
    else .error (unclosed .literalLines (c :: cs))
  | [] => .error (unclosed .literalLines [])

/-! ### Any string -/

/-- A text without the end of a line that it starts with. -/
def withoutFirstNewline (cs : List Char) : List Char := (behindNewline? cs).getD cs

/-- **A string on one line.** -/
def lineString : Read String := fun cs => do
  match cs with
  | '"' :: cs =>
    let (xs, rest) ← basicBody cs
    return (String.ofList xs, rest)
  | '\'' :: cs =>
    let (xs, rest) ← literalBody cs
    return (String.ofList xs, rest)
  | cs => .error { left := cs.length }

/-- **A string.** -/
def string : Read String := fun cs => do
  match cs with
  | '"' :: '"' :: '"' :: cs =>
    let (xs, rest) ← basicLinesBody false (withoutFirstNewline cs)
    return (String.ofList xs, rest)
  | '\'' :: '\'' :: '\'' :: cs =>
    let (xs, rest) ← literalLinesBody (withoutFirstNewline cs)
    return (String.ofList xs, rest)
  | cs => lineString cs

end EnvSchema.Data.Toml
