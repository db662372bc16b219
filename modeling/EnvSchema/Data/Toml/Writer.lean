/-!
# Writing documents

A document is written as tables with headers, one key on each line. Strings are quoted in the first
of several styles that needs no escapes, where there is one.

* `Style.of` — the style in which a string is written;
* `quoted` — a string as it is written;
* `Setting`, `documentText` — what is written, and its text.
-/

namespace EnvSchema.Data.Toml

/-! ### Strings -/

/-- **How a string is quoted.** -/
inductive Style where
  | basic
  | literal
  | basicLines
  | literalLines
  deriving Repr, DecidableEq

/-- Whether a character can stand in no string without an escape. -/
def isControl (c : Char) : Bool := (c.toNat < 0x20 && c != '\t' && c != '\n') || c.toNat == 0x7F

/-- The longest run of a character. -/
def longestRun (c : Char) (cs : List Char) : Nat := go 0 0 cs
where
  /-- The longest run, where one of some length has been met and another one is going on. -/
  go (longest current : Nat) : List Char → Nat
    | [] => longest
    | x :: xs => if x = c then go (max longest (current + 1)) (current + 1) xs else go longest 0 xs

/-- **The style of a string**: the first one in which it needs no escapes, or else one with
escapes. -/
def Style.of (cs : List Char) : Style :=
  let hasControl := cs.any isControl
  let hasBackslash := cs.contains '\\'
  let hasNewline := cs.contains '\n'
  let doubles := longestRun '"' cs
  let singles := longestRun '\'' cs
  if !hasControl && !hasBackslash && doubles == 0 && !hasNewline then .basic
  else if !hasControl && singles == 0 && !hasNewline then .literal
  else if !hasControl && !hasBackslash && doubles ≤ 2 then .basicLines
  else if !hasControl && singles ≤ 2 then .literalLines
  else if hasNewline then .basicLines
  else .basic

/-- The four hexadecimal digits of a code. -/
def codeDigits (n : Nat) : List Char :=
  let ds := (Nat.toDigits 16 n).map Char.toUpper
  List.replicate (4 - ds.length) '0' ++ ds

/-- A character as an escape, if it needs one wherever it stands. -/
def escape? (c : Char) : Option (List Char) :=
  match c with
  | '\x08' => some ['\\', 'b']
  | '\t' => some ['\\', 't']
  | '\x0c' => some ['\\', 'f']
  | '\r' => some ['\\', 'r']
  | '\\' => some ['\\', '\\']
  | c => if isControl c then some ('\\' :: 'u' :: codeDigits c.toNat) else none

/-- The characters of a string between double quotes, of which at most `allowed` may stand in a row
without an escape; `before` stand before these characters. -/
def escaped (allowed before : Nat) : List Char → List Char
  | [] => []
  | '"' :: cs =>
    if before < allowed then '"' :: escaped allowed (before + 1) cs
    else '\\' :: '"' :: escaped allowed 0 cs
  | '\n' :: cs =>
    if allowed = 0 then '\\' :: 'n' :: escaped allowed 0 cs else '\n' :: escaped allowed 0 cs
  | c :: cs =>
    match escape? c with
    | some e => e ++ escaped allowed 0 cs
    | none => c :: escaped allowed 0 cs

/-- The end of a line behind the opening quotes of a string with several lines, which is not part of
it. -/
def opening (cs : List Char) : List Char := if cs.contains '\n' then ['\n'] else []

/-- **A string as it is written.** -/
def quotedChars (cs : List Char) : List Char :=
  let three (c : Char) := [c, c, c]
  match Style.of cs with
  | .basic => '"' :: escaped 0 0 cs ++ ['"']
  | .literal => '\'' :: cs ++ ['\'']
  | .basicLines => three '"' ++ opening cs ++ escaped 2 0 cs ++ three '"'
  | .literalLines => three '\'' ++ opening cs ++ cs ++ three '\''

/-- A string as it is written. -/
def quoted (s : String) : String := String.ofList (quotedChars s.toList)

/-! ### Documents -/

/-- **A value that is written.** -/
inductive Setting where
  | text (s : String)
  | texts (l : List String)
  deriving Repr, DecidableEq

/-- A value as it is written. A list of several values has a line for each of them. -/
def Setting.write : Setting → String
  | text s => quoted s
  | texts [] => "[]"
  | texts [s] => "[" ++ quoted s ++ "]"
  | texts l => "[\n" ++ String.join (l.map fun s => "    " ++ quoted s ++ ",\n") ++ "]"

/-- A table with its header. -/
def tableText (name : String) (settings : List (String × Setting)) : String :=
  "[" ++ name ++ "]\n" ++ String.join (settings.map fun (key, s) => key ++ " = " ++ s.write ++ "\n")

/-- **A document as it is written**: its tables, with empty lines between them. -/
def documentText (tables : List (String × List (String × Setting))) : String :=
  "\n".intercalate (tables.map fun (name, settings) => tableText name settings)

end EnvSchema.Data.Toml
