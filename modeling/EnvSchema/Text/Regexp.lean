/-!
# Regular expressions

What is searched for in a text where a few words and the places around them decide. There are no
repetitions, so an expression ends at finitely many places.

* `Place` — a place in a text;
* `Regexp` — an expression, and `Regexp.ends`, the places where it may end;
* `Regexp.isFound` — whether an expression matches anywhere in a text.
-/

namespace EnvSchema.Text

/-- **A place in a text.** -/
structure Place where
  /-- The text before the place, the last character first. -/
  behind : List Char
  /-- The text after it. -/
  ahead : List Char

namespace Place

/-- The place behind a piece of the text ahead. -/
def past (p : Place) (piece : List Char) : Place :=
  ⟨piece.reverse ++ p.behind, p.ahead.drop piece.length⟩

/-- The places of a text from one on. -/
def onward (behind : List Char) : List Char → List Place
  | [] => [⟨behind, []⟩]
  | c :: cs => ⟨behind, c :: cs⟩ :: onward (c :: behind) cs

end Place

/-- **A regular expression.** -/
inductive Regexp where
  /-- The start of the text. -/
  | start
  /-- The end of the text. -/
  | finish
  /-- One of some words. -/
  | oneOf (words : List String)
  /-- One expression, and another one behind it. -/
  | seq (first second : Regexp)
  /-- One expression or another one. -/
  | either (first second : Regexp)
  deriving Repr, DecidableEq, Inhabited

namespace Regexp

/-- **The places where an expression may end** that starts at a place. -/
def ends : Regexp → Place → List Place
  | start, p => if p.behind.isEmpty then [p] else []
  | finish, p => if p.ahead.isEmpty then [p] else []
  | oneOf words, p =>
    (words.filter fun w => w.toList.isPrefixOf p.ahead).map fun w => p.past w.toList
  | seq first second, p => (first.ends p).flatMap second.ends
  | either first second, p => first.ends p ++ second.ends p

/-- **Whether an expression matches anywhere in a text.** -/
def isFound (r : Regexp) (text : List Char) : Bool :=
  (Place.onward [] text).any fun p => !(r.ends p).isEmpty

end Regexp

end EnvSchema.Text
