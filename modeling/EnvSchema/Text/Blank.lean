import EnvSchema.Text.Ranges

/-!
# Blanks and lines

* `isBlank` — the characters that separate words and lines in any script;
* `trimStart`, `trimEnd`, `trim` — a text without the blanks around it;
* `linesWithEnds`, `lines` — the lines of a text, with and without what ends them;
* `flatten_linesWithEnds` — cutting a text into lines with their ends loses nothing;
* `indent_append_trimStart` — what `trimStart` takes off is the blanks in front and nothing else.
-/

namespace EnvSchema.Text

/-- The characters that count as blank. -/
def blankRanges : Ranges :=
  [(0x09, 0x0D), (0x20, 0x20), (0x85, 0x85), (0xA0, 0xA0), (0x1680, 0x1680), (0x2000, 0x200A),
    (0x2028, 0x2029), (0x202F, 0x202F), (0x205F, 0x205F), (0x3000, 0x3000)]

/-- Whether a character is blank. -/
def isBlank (c : Char) : Bool := blankRanges.has c

/-- A text without the blanks it starts with. -/
def trimStart (cs : List Char) : List Char := cs.dropWhile isBlank

/-- A text without the blanks it ends with. -/
def trimEnd (cs : List Char) : List Char := (cs.reverse.dropWhile isBlank).reverse

/-- A text without the blanks around it. -/
def trim (cs : List Char) : List Char := trimEnd (trimStart cs)

/-- The blanks that a text starts with. -/
def indent (cs : List Char) : List Char := cs.takeWhile isBlank

/-- A text is the blanks that it starts with and the rest. -/
theorem indent_append_trimStart (cs : List Char) : indent cs ++ trimStart cs = cs :=
  List.takeWhile_append_dropWhile

/-- The lines of a text, each with the line feed that ends it. The last one may lack it; an empty
text has no lines. -/
def linesWithEnds : List Char → List (List Char)
  | [] => []
  | c :: cs =>
    if c = '\n' then [c] :: linesWithEnds cs
    else
      match linesWithEnds cs with
      | [] => [[c]]
      | l :: ls => (c :: l) :: ls

/-- Cutting a text into lines loses nothing. -/
theorem flatten_linesWithEnds (cs : List Char) : (linesWithEnds cs).flatten = cs := by
  induction cs with
  | nil => rfl
  | cons c cs ih =>
    unfold linesWithEnds
    split
    · simp [ih]
    · split <;> simp_all

/-- A line without the line feed that ends it, and without a carriage return before that. -/
def withoutEnd (line : List Char) : List Char :=
  match line.reverse with
  | '\n' :: '\r' :: cs => cs.reverse
  | '\n' :: cs => cs.reverse
  | _ => line

/-- The lines of a text. -/
def lines (cs : List Char) : List (List Char) := (linesWithEnds cs).map withoutEnd

end EnvSchema.Text
