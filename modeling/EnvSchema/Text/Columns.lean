import EnvSchema.Text.Cells

/-!
# Lines and columns

Where a place in a text is shown to be: its line, and the column at which a screen would show it.
Only a line feed ends a line.

* `bytes` — the length of a text in bytes;
* `width` — how far a character moves the column: by its UTF-16 units, corrected for the cells it
  takes on a screen, and by four for a tab;
* `lineAndColumn` — both numbers, counted from one;
* `lineAndColumn_nil` — a text starts in its first line and column.
-/

namespace EnvSchema.Text

/-- The number of UTF-16 units of a character. -/
def units (c : Char) : Nat := if c.toNat < 0x10000 then 1 else 2

/-- The number of bytes of a text in UTF-8. -/
def bytes (cs : List Char) : Nat := cs.foldl (fun n c => n + c.utf8Size) 0

/-- How far a character moves the column. -/
def width (c : Char) : Nat := if c = '\t' then 4 else units c - 1 + cells c

/-- **The line and the column behind some text**, both counted from one. -/
def lineAndColumn (before : List Char) : Nat × Nat :=
  before.foldl (fun (line, column) c => if c = '\n' then (line + 1, 1) else (line, column + width c))
    (1, 1)

/-- A text starts in its first line and column. -/
theorem lineAndColumn_nil : lineAndColumn [] = (1, 1) := rfl

end EnvSchema.Text
