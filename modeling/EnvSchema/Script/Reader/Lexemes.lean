import EnvSchema.Script.Reader.Entities
import EnvSchema.Script.Reader.Words
import EnvSchema.Text.Shown

/-!
# Cutting a script into tokens

* `Mode.afterToken` — how a token changes what the open brackets enclose, and whether an expression
  may follow it;
* `Read.markToken`, `Read.elementText`, `Read.templatePiece` — the readers of one kind of token;
* `Read.lexeme` — the next token with its place.
-/

namespace EnvSchema.Script

namespace Mode

/-- Whether a brace ahead opens a block rather than an object. -/
def opensBlock (modes : List Mode) (prev : Option TokenClass) (lineBreak exprAllowed : Bool) :
    Bool :=
  let current := modes.head?
  let byToken : Bool := match prev with
    | some (.keyword "return") | some (.keyword "yield") => lineBreak
    | some (.keyword "else") | some .semicolon | none | some .closeParen => true
    | some .openBrace =>
      if current == some .braceExpr && modes.tail.head? == some .openingTag then true
      else current == some .braceStatement
    | some (.binary "<") | some (.binary ">") | some .arrow => true
    | _ => !exprAllowed
  match prev, current with
  | some .colon, some .braceStatement => true
  | some .colon, some .braceExpr => false
  | _, _ => byToken

/-- What closing a bracket leaves open, and whether an expression may follow it. -/
def afterClose : List Mode → List Mode × Bool
  | closed :: rest =>
    if rest.isEmpty then ([closed], true)
    else
      match closed, rest with
      | .braceStatement, .functionExpr :: outer => (outer, false)
      | .braceStatement, .classExpr :: outer => (outer, false)
      | .templateValue, .template :: _ => (rest, false)
      | .templateValue, _ => (rest, true)
      | _, _ => (rest, !closed.isExpr)
  | [] => ([], true)

/-- What the end of a tag leaves open, and whether an expression may follow it. -/
def afterTag (modes : List Mode) (prev : Option TokenClass) : List Mode × Bool :=
  let rest := modes.tail
  if (modes.head? == some .openingTag && prev == some (.binary "/")) ||
      modes.head? == some .closingTag then
    (rest.tail, rest.tail.head? == some .elementBody)
  else (rest, true)

/-- **What is open after a token, and whether an expression may follow it.** -/
def afterToken (hasJsx : Bool) (modes : List Mode) (prev : Option TokenClass) (t : Token)
    (lineBreak lineBreakBefore exprAllowed : Bool) : List Mode × Bool :=
  let current := modes.head?
  let inHead := current == some .functionExpr || current == some .classExpr
  if t.isKeyword && prev == some .dot then (modes, false)
  else match t with
    | .mark ")" | .mark "\x7d" => afterClose modes
    | .word "function" =>
      if exprAllowed && !opensBlock modes prev lineBreak exprAllowed then
        (.functionExpr :: modes, false)
      else (modes, false)
    | .word "class" =>
      if exprAllowed && !opensBlock modes prev lineBreak exprAllowed then (.classExpr :: modes, false)
      else (modes, false)
    | .mark ":" => if inHead then (modes.tail, true) else (modes, true)
    | .mark "\x7b" =>
      if hasJsx && current == some .openingTag then (.braceExpr :: modes, true)
      else if hasJsx && current == some .elementBody then (.templateValue :: modes, true)
      else if opensBlock modes prev lineBreak exprAllowed then (.braceStatement :: modes, true)
      else (.braceExpr :: modes, true)
    | .mark "/" =>
      if hasJsx && prev == some .tagStart then (.closingTag :: modes.tail.tail, false)
      else (modes, true)
    | .mark "$\x7b" => (.templateValue :: modes, true)
    | .mark "(" =>
      match prev with
      | some (.keyword "if") | some (.keyword "with") | some (.keyword "while") =>
        (.parenStatement false :: modes, true)
      | some (.keyword "for") => (.parenStatement true :: modes, true)
      | _ => (.parenExpr :: modes, true)
    | .mark "++" | .mark "--" => (modes, exprAllowed)
    | .mark "`" =>
      if current == some .template then (modes.tail, false) else (.template :: modes, false)
    | .tagStart => (.openingTag :: .elementBody :: modes, false)
    | .tagEnd => afterTag modes prev
    | .word "of" =>
      if current == some (.parenStatement true) then
        (modes, !(prev.map TokenClass.beforeExpr).getD false)
      else (modes, declares prev)
    | t => if t.isName then (modes, declares prev) else (modes, t.beforeExpr)
where
  /-- Whether a name ends a declaration that its line leaves open. -/
  declares (prev : Option TokenClass) : Bool :=
    lineBreakBefore && [some (.keyword "let"), some (.keyword "const"),
      some (.keyword "var")].contains prev

end Mode

namespace Read

/-- The marks, longer ones before those they start with. -/
def marks : List String :=
  [">>>=", "...", "===", "!==", "**=", "<<=", ">>=", ">>>", "&&=", "||=", "??=", "=>", "==", "!=",
   "<=", ">=", "&&", "||", "??", "++", "--", "+=", "-=", "*=", "/=", "%=", "&=", "|=", "^=", "<<",
   ">>", "**", "\x7b", "\x7d", "(", ")", "[", "]", ";", ",", "<", ">", "+", "-", "*", "/", "%",
   "&", "|", "^", "!", "~", "?", ":", "=", "@", ".", "#", "`"]

/-- Takes a mark that is ahead. -/
def mark (m : String) : Read Token := do
  skip m.length
  return .mark m

/-- Where the line of a merge marker starts, if the reader stands on one. -/
def atMergeMarker (sign : Char) : Read Bool := do
  let r ← get
  let signs := List.replicate 7 sign
  return r.lineBreak &&
    (if sign == '=' then signs else signs ++ [' ']).isPrefixOf r.rest

/-- Passes over the line of a merge marker, which is recorded. -/
def skipMergeMarker : Read Unit := do
  let start := (← get).pos
  record ⟨start, start + 7⟩ .mergeMarker
  skipLineComment 7
  skipBlanks

/-- Reads a token that is no part of a template or of an element. A comment of the old form and a
merge marker are recorded and passed over, so the token after them is read; `fuel` bounds their
number. -/
def plainToken : Nat → Read (Option Token)
  | 0 => return none
  | fuel + 1 => do
    let r ← get
    match r.rest with
    | [] => return none
    | c :: _ =>
      if Text.isIdentStart c || c == '\\' then return some (← word)
      else if c.isDigit then return some (← number)
      else if c == '"' || c == '\x27' then return some (← quoted)
      else if c == '.' && ((← charAfter?).map Char.isDigit).getD false then return some (← number)
      else if (c == '<' || c == '>') && r.dialect.hasTypes && r.context.inType &&
          !r.context.anglesAreOperators then
        return some (← mark c.toString)
      else if ← ahead "<!--" then
        skipLineComment 4
        skipBlanks
        record ⟨r.pos, r.pos⟩ .legacyComment
        plainToken fuel
      else if r.lineBreak && (← ahead "-->") then
        record ⟨r.pos, r.pos + 3⟩ .legacyComment
        skipLineComment 3
        skipBlanks
        plainToken fuel
      else if ← atMergeMarker '=' then
        skipMergeMarker
        plainToken fuel
      else if (← atMergeMarker '<') || (← atMergeMarker '>') || (← atMergeMarker '|') then
        skipMergeMarker
        fail ⟨r.pos, r.pos + 7⟩ .mergeMarker
      else
        match marks.find? fun m => m.toList.isPrefixOf r.rest with
        | some m => return some (← mark m)
        | none =>
          skip 1
          fail (.point r.pos) (.unexpectedChar (Text.shownChar c))

/-- Reads a token that is no part of a template or of an element. -/
def markToken : Read (Option Token) := do plainToken ((← get).rest.length + 1)

/-- Reads a character written by name or number, from its `&` on; an `&` that starts none stands for
itself. -/
def elementEntity : Read Char := do
  skip 1
  let name := ((← get).rest.take 10).takeWhile (· != ';')
  let ends := ((← get).rest.drop name.length).head? == some ';' && name.length < 10
  match entity? name with
  | some c => if ends then skip (name.length + 1); return c else return '&'
  | none => return '&'

/-- Reads text between elements, up to a tag or a brace. -/
def elementText : Read (Option Token) := do
  let before ← get
  loop ([] : List (List Char)) fun out => do
    let out := (← takeWhile fun c =>
      !(c == '<' || c == '\x7b' || c == '>' || c == '\x7d' || c == '&' || c == '\r')) :: out
    let r ← get
    match r.rest with
    | [] => failFrom before.pos .unterminatedElementText
    | '&' :: _ => return .inl ([← elementEntity] :: out)
    | '\r' :: _ =>
      skip 1
      if ← eatChar '\n' then return .inl (['\n'] :: out) else return .inl (['\r'] :: out)
    | '>' :: _ =>
      record (.point r.pos) (.suggestion "`\x7b'>'\x7d`" "`&gt;`")
      skip 1
      return .inl (['>'] :: out)
    | '\x7d' :: _ =>
      record (.point r.pos) (.suggestion "`\x7b'\x7d'\x7d`" "`&rbrace;`")
      skip 1
      return .inl (['\x7d'] :: out)
    | c :: _ =>
      if c == '<' && (← atMergeMarker '<') then
        skipMergeMarker
        return .inr (← markToken)
      else if r.pos == before.pos then
        -- no text: the mark itself is what is ahead
        if c == '<' && r.exprAllowed then
          skip 1
          return .inr (some .tagStart)
        else return .inr (← markToken)
      else
        let value := String.ofList out.reverse.flatten
        return .inr (some (.elementText value (← passedSince before)))

/-- Reads a quoted text within a tag, where a backslash stands for itself. -/
def elementQuoted (quote : Char) : Read Token := do
  let before ← get
  skip 1
  let value ← loop ([] : List (List Char)) fun out => do
    let out := (← takeWhile fun c => c != quote && c != '&') :: out
    match ← char? with
    | some '&' => return .inl ([← elementEntity] :: out)
    | some _ => return .inr out.reverse.flatten
    | none =>
      recordFrom before.pos .unterminatedString
      return .inr out.reverse.flatten
  -- the closing quote is taken only if two more characters follow
  if 3 ≤ (← get).rest.length then skip 1
  return .string (String.ofList value) (← passedSince before)

/-- Reads a name within a tag. -/
def elementName : Read Token := do
  let cs ← takeWhile fun c => Text.isIdentPart c || c == '-'
  return .elementName (String.ofList cs)

/-- Reads a piece of a template, or the mark that ends one. -/
def templatePiece : Read Token := do
  let before ← get
  loop (Except.ok (ε := Diagnostic) ([] : List (List Char))) fun cooked => do
    let run ← takeWhile fun c => c != '`' && c != '$' && c != '\\' && !isLineEnd c
    let push (cs : List Char) := cooked.map fun out => cs :: out
    let r ← get
    match r.rest with
    | [] => failFrom before.templateStart .unterminatedTemplate
    | '\\' :: _ =>
      match ← outcome (escape true) with
      | .ok cs => return .inl (push (run ++ cs))
      -- a wrong escape leaves the piece without a value; a function may take it as it is written
      | .error d => return .inl (.error d)
    | '$' :: cs =>
      if cs.head? == some '\x7b' then
        -- the piece before the mark has been read already
        if r.pos == before.pos && r.lastClass == some .template then
          return .inr (← mark "$\x7b")
        else return .inr (← finish before (push run))
      else
        skip 1
        return .inl (push (run ++ ['$']))
    | '`' :: _ =>
      if r.pos == before.pos && r.lastClass == some .template then return .inr (← mark "`")
      else return .inr (← finish before (push run))
    | '\r' :: cs =>
      skip (if cs.head? == some '\n' then 2 else 1)
      return .inl (push (run ++ ['\n']))
    | c :: _ =>
      skip 1
      return .inl (push (run ++ [c]))
where
  /-- The piece read so far. -/
  finish (before : Reader) (cooked : Except Diagnostic (List (List Char))) : Read Token := do
    return .template (← passedSince before) (cooked.map fun out => String.ofList out.reverse.flatten)

/-- Reads a regular expression from its slash on. -/
def regexpToken (pos : Nat) : Read Token := do
  modify fun r => { r with rest := r.text.drop (pos - r.start), pos := pos }
  skip 1
  let body ← loop (([] : List Char), false, false) fun (out, escaped, inClass) => do
    match ← char? with
    | none => failFrom pos .unterminatedRegexp
    | some c =>
      if isLineEnd c then failFrom pos .unterminatedRegexp
      else if !escaped && c == '/' && !inClass then return .inr out.reverse
      else
        skip 1
        let inClass := if escaped then inClass else (c == '[' || (inClass && c != ']'))
        return .inl (c :: out, !escaped && c == '\\', inClass)
  skip 1
  let flags ← match ← char? with
    | some c => if Text.isIdentStart c then pure (← wordText).1 else pure ""
    | none => pure ""
  return .regexp (String.ofList body) flags

/-- Reads the first line, if it names an interpreter. -/
def hashbang? : Read (Option Token) := do
  if ← ahead "#!" then
    skip 2
    return some (.hashbang (String.ofList (← takeWhile fun c => !isLineEnd c)))
  else return none

/-- Reads a token within an element, if the characters ahead form one that is known only there. -/
def elementToken? : Read (Option (Option Token)) := do
  let r ← get
  if !r.dialect.hasJsx || r.context.inPropertyName || r.context.inType then return none
  let mode := r.modes.head?
  if mode == some .elementBody then return some (← elementText)
  let inTag := mode == some .openingTag || mode == some .closingTag
  match r.rest with
  | [] => return none
  | c :: cs =>
    if inTag && Text.isIdentStart c then return some (some (← elementName))
    else if inTag && c == '>' then
      skip 1
      return some (some .tagEnd)
    else if mode == some .openingTag && (c == '"' || c == '\x27') then
      return some (some (← elementQuoted c))
    else if c == '<' && r.exprAllowed && cs.head? != some '!' then
      if ← atMergeMarker '<' then
        skipMergeMarker
        return some (← markToken)
      skip 1
      return some (some .tagStart)
    else return none

/-- Reads the token ahead, before which there are no blanks any more; nothing at the end. -/
def tokenHere : Read (Option Token) := do
  if (← get).rest.isEmpty then
    placeComments
    return none
  if let some t ← elementToken? then return t
  if (← get).modes.head? == some .template then return some (← templatePiece)
  markToken

/-- Reads the token ahead, after the blanks before it unless they belong to it. -/
def tokenBehindBlanks : Read (Option Token) := do
  modify fun r => { r with lineBreak := r.isFirst, isFirst := false }
  if !(((← get).modes.head?.map Mode.keepsBlanks).getD false) then
    skipBlanks
    modify fun r => { r with tokenStart := r.pos }
  tokenHere

/-- Reads the next token; nothing at the end. The place where the token starts is left in the
state. -/
def nextToken : Read (Option Token) := do
  let r ← get
  set { r with tokenStart := r.pos }
  if let some pos := r.regexpAt then return some (← regexpToken pos)
  if r.isFirst then
    if let some t ← hashbang? then return some t
  tokenBehindBlanks

/-- **The next token with its place.** A fault in it becomes a token of its own. -/
def lexeme : Read (Option Lexeme) := do
  let token ← match ← outcome nextToken with
    | .ok t => pure t
    | .error d => pure (some (.faulty d))
  match token with
  | none => return none
  | some t =>
    let r ← get
    -- the comments before a token are placed where it starts
    let pending := r.pending.map fun c => (true, r.tokenStart, c)
    let (modes, exprAllowed) := Mode.afterToken r.dialect.hasJsx r.modes r.lastClass t r.lineBreak
      r.lineBreakBefore r.exprAllowed
    let opensTemplate := t.isMark "`" && r.modes.head? != some .template
    set { r with
      pending := []
      placed := pending.reverse ++ r.placed
      modes := modes
      exprAllowed := exprAllowed
      templateStart := if opensTemplate then r.tokenStart else r.templateStart
      lastClass := some (.ofToken t)
      lastEnd := r.pos
      lineBreakBefore := r.lineBreak }
    return some ⟨t, r.lineBreak, ⟨r.tokenStart, r.pos⟩⟩

end Read

end EnvSchema.Script
