import EnvSchema.Script.Reader.Digits
import EnvSchema.Text.Letters

/-!
# Words and quoted texts

* `Context.isReserved` — whether a word is no name at a place of the grammar;
* `Read.unicodeEscape`, `Read.escape` — what an escape stands for;
* `Read.wordText`, `Read.word` — reads a name or keyword;
* `Read.quoted` — reads a quoted text.
-/

namespace EnvSchema.Script

open EnvSchema.Number

/-- The words that are never names. -/
def reservedWords : List String :=
  ["null", "true", "false", "break", "case", "catch", "continue", "debugger", "default", "do",
   "export", "else", "finally", "for", "function", "if", "return", "switch", "throw", "try", "var",
   "const", "while", "with", "new", "this", "super", "class", "extends", "import", "in",
   "instanceof", "typeof", "void", "delete", "enum"]

/-- The words that are no names in strict code. -/
def strictReservedWords : List String :=
  ["implements", "package", "protected", "interface", "private", "public"]

/-- Whether a word is no name at a place of the grammar. -/
def Context.isReserved (c : Context) (w : String) : Bool :=
  match w with
  | "let" => c.strict
  | "await" => c.inAsync || c.inStaticBlock || c.strict
  | "yield" => c.inGenerator || c.strict
  | w => reservedWords.contains w || (c.strict && strictReservedWords.contains w)

namespace Read

/-- Reads an escape by code point, from its `u` on. A code point that is no character stays as it is
written. -/
def unicodeEscape : Read (List Char) := do
  skip 1
  let curly ← eatChar '\x7b'
  let before ← get
  let ds ← digits 16 (if curly then none else some 4)
  let value := ofDigits 16 ds
  let pos := (← get).pos
  if ds.isEmpty || (!curly && ds.length != 4) || value > 0xFFFFFFFF then
    fail (.point pos)
      (.badCharacterEscape (if curly then "1-6 hex characters" else "4 hex characters"))
  if value > 0x10FFFF then
    fail (.point pos) (.badCharacterEscape (if curly then
      "1-6 hex characters in the range 0 to 10FFFF." else "4 hex characters"))
  let chars :=
    if Nat.isValidChar value then [Char.ofNat value]
    else if curly then
      "\\u\x7b".toList ++ ((before.rest.take 6).takeWhile (· != '\x7d')) ++ ['\x7d']
    else "\\u".toList ++ before.rest.take 4
  if ← (pure curly <&&> notM (eatChar '\x7d')) then failFrom before.pos .invalidUnicodeEscape
  return chars

/-- Reads the rest of an octal escape whose first digit is `first`. -/
def octalEscape (start : Nat) (inTemplate : Bool) (first : Char) : Read (List Char) := do
  let digit? (o : Option Char) := o.bind (digitValue? 8)
  skip 1
  let value := (digit? (some first)).getD 0
  if first == '0' && (digit? (← char?)).isNone then return ['\x00']
  if inTemplate then failFrom start .legacyOctal
  recordStrict ⟨start, (← get).pos⟩ .legacyOctal
  match digit? (← char?) with
  | none => return [Char.ofNat value]
  | some second =>
    skip 1
    let value := value * 8 + second
    match digit? (← char?) with
    | none => return [Char.ofNat value]
    | some third =>
      if value * 8 + third > 255 then return [Char.ofNat value]
      skip 1
      return [Char.ofNat (value * 8 + third)]

/-- Reads an escape: the characters it stands for. The end of a line stands for none. -/
def escape (inTemplate : Bool) : Read (List Char) := do
  let start := (← get).pos
  skip 1
  let one (c : Char) : Read (List Char) := do skip 1; return [c]
  match ← char? with
  | none => fail (.point start) .invalidStringEscape
  | some 'n' => one '\n'
  | some 'r' => one '\r'
  | some 't' => one '\t'
  | some 'b' => one '\x08'
  | some 'v' => one '\x0b'
  | some 'f' => one '\x0c'
  | some '\r' =>
    skip 1
    let _ ← eatChar '\n'
    return []
  | some '\n' | some '\u2028' | some '\u2029' =>
    skip 1
    return []
  | some 'x' =>
    skip 1
    let ds ← digits 16 (some 2)
    if ds.length == 2 then return [Char.ofNat (ofDigits 16 ds)]
    failFrom start (.badCharacterEscape "2 hex characters")
  | some 'u' =>
    match ← outcome unicodeEscape with
    | .ok cs => return cs
    | .error d => failFrom start d.fault
  | some c => if '0' ≤ c && c ≤ '7' then octalEscape start inTemplate c else one c

/-- Reads the characters of a word, and whether one of them is written as an escape. -/
def wordText : Read (String × Bool) :=
  loop (([] : List (List Char)), false) fun (out, escaped) => do
    let out := (← takeWhile Text.isIdentPart) :: out
    match ← char? with
    | some '\\' =>
      let start := (← get).pos
      skip 1
      if (← char?) != some 'u' then fail (.point start) .unicodeEscapeExpected
      let cs ← unicodeEscape
      match cs.head? with
      | some c => if !Text.isIdentPart c then recordFrom start .invalidIdentChar
      | none => pure ()
      return .inl (cs :: out, true)
    | _ => return .inr (String.ofList out.reverse.flatten, escaped)

/-- **Reads a name or keyword.** A word that is no name may not be written with escapes. -/
def word : Read Token := do
  let start := (← get).pos
  let (text, escaped) ← wordText
  if escaped && (← context).isReserved text then failFrom start (.reservedWordEscape text)
  return .word text

/-- **Reads a quoted text.** One that its line ends before its closing quote does is recorded. -/
def quoted : Read Token := do
  let before ← get
  let quote := (← char?).getD '"'
  skip 1
  let value ← loop ([] : List (List Char)) fun out => do
    let out := (← takeWhile fun c => c != quote && c != '\\' && c != '\n' && c != '\r') :: out
    match ← char? with
    | some '\\' => return .inl ((← escape false) :: out)
    | some c =>
      if c == quote then skip 1 else recordFrom before.pos .unterminatedString
      return .inr out.reverse.flatten
    | none =>
      recordFrom before.pos .unterminatedString
      return .inr out.reverse.flatten
  return .string (String.ofList value) (← passedSince before)

end Read

end EnvSchema.Script
