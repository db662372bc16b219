import EnvSchema.Data.Toml.Reader.Values

/-!
# Whole documents

* `line` — one line of a document, as far as there is something on it;
* `document` — all lines;
* `parse` — reads a text as a document.
-/

namespace EnvSchema.Data.Toml

open Read

/-- What may follow a header, or a key with its value. -/
def restOfLine : Read Unit := wanting [.newline, .sign "#"] lineEnd

/-- A key with its value, and the end of their line. -/
def fieldLine : Read Field := do
  let (path, key) ← key
  certain do
    wanting [.sign ".", .sign "="] (char '=')
    blanks
    let v ← value maxDepth
    restOfLine
    return ⟨path, key, v⟩

/-- A header in brackets, and the end of its line. -/
def headerLine (opening closing : String) : Read ((List Key × Key) × Span) := do
  let header ← spanned do
    literal opening
    certain do
      let k ← key
      wanting [.sign ".", .sign closing] (literal closing)
      return k
  certain restOfLine
  return header

/-- **One line of a document**, from its first character that is no blank. -/
def line (d : Draft) : Read Draft := do
  match ← left with
  | [] => stop
  | '#' :: _ => certain do
    comment
    newlineOrEnd
    return d
  | '[' :: '[' :: _ => certain (called .tableHeader
      (checked (fun ((parents, key), span) => d.elementHeader parents key span) (headerLine "[[" "]]")))
  | ['['] => certain (called .tableHeader stop)
  | '[' :: _ => certain (called .tableHeader
      (checked (fun ((parents, key), span) => d.header parents key span) (headerLine "[" "]")))
  | '\n' :: _ | '\r' :: _ =>
    newline
    return d
  | _ => certain (checked d.field fieldLine)

/-- Lines, with blanks between them; the number bounds them. -/
def lines : Nat → Draft → Read Draft
  | 0, d => return d
  | n + 1, d => do
    blanks
    match ← softly (line d) with
    | none => return d
    | some d => lines n d

/-- **A document.** It may start with a mark of the order of bytes. -/
def document : Read Draft := do
  let _ ← softly (char '\ufeff')
  let n := (← left).length
  let d ← lines (n + 1) { current := { form := .header, span := some ⟨n, n⟩ } }
  if (← peek).isSome then stop else return d

/-- A place in a text as a stretch of one character, or of none at its end. -/
def spotAt (left : Nat) : Span := ⟨left, left - 1⟩

/-- **Reads a text as a document.** -/
def parse (text : String) : Except Complaint Table :=
  match document text.toList with
  | .error s => .error ⟨.text s.label s.expected s.cause, spotAt s.left⟩
  | .ok (d, _) =>
    match d.close with
    | .ok t => .ok t
    | .error c => .error ⟨.text none [] (some c), spotAt 0⟩

end EnvSchema.Data.Toml
