/-!
# Spans

Places in a script. A place is the number of characters before it, so a `Span` is a pair of such
numbers: the characters from `lo` up to, and not including, `hi`.

* `Span.point` — the empty span at a place;
* `Span.cover` — the smallest span that starts where one begins and ends where another ends.
-/

namespace EnvSchema.Script

/-- **A stretch of source text**, as the numbers of characters before its two ends. -/
structure Span where
  /-- Characters before the first one of the stretch. -/
  lo : Nat
  /-- Characters before the first one after the stretch. -/
  hi : Nat
  deriving Repr, DecidableEq, Inhabited

namespace Span

/-- The empty span at a place. -/
def point (place : Nat) : Span := ⟨place, place⟩

/-- From the start of `a` to the end of `b`. -/
def cover (a b : Span) : Span := ⟨a.lo, b.hi⟩

/-- A span that stands for no place at all: what has not been read from a text. -/
def none : Span := ⟨0, 0⟩

/-- Whether a span stands for no place. -/
def isNone (s : Span) : Bool := s.lo == 0 && s.hi == 0

end Span

end EnvSchema.Script
