/-!
# How alike two words are

The likeness of two words is a number from zero to one: it counts the letters that they share at
about the same place, and takes off something for those that are in another order.

* `likeness` — the likeness of two words;
* `alike` — those of some words that are like another one, the most alike last.
-/

namespace EnvSchema.Text

/-- The first place from `low` up to `high` at which a letter stands that has not been used. -/
def shared? (c : Char) (used : List Bool) (word : List Char) (low high : Nat) : Option Nat :=
  ((word.zip used).zipIdx).findSome? fun ((d, isUsed), i) =>
    if low ≤ i && i < high && c == d && !isUsed then some i else none

/-- For each letter of a word from place `i` on, whether it is shared with the other word, and which
letters of the other word are used in the end. Shared letters are at most `range` places apart. -/
def sharedLetters (word : List Char) (range : Nat) : Nat → List Bool → List Char → List Bool × List Bool
  | _, used, [] => ([], used)
  | i, used, c :: cs =>
    match shared? c used word (i - range) (i + range + 1) with
    | some j =>
      let (flags, used) := sharedLetters word range (i + 1) (used.set j true) cs
      (true :: flags, used)
    | none =>
      let (flags, used) := sharedLetters word range (i + 1) used cs
      (false :: flags, used)

/-- The letters of a word that are marked. -/
def marked (word : List Char) (marks : List Bool) : List Char :=
  (word.zip marks).filterMap fun (c, isMarked) => if isMarked then some c else none

/-- **The likeness of two words.** -/
def likeness (a b : List Char) : Float :=
  if a.isEmpty && b.isEmpty then 1.0
  else
    let range := max a.length b.length / 2 - 1
    let (inA, inB) := sharedLetters b range 0 (List.replicate b.length false) a
    let fromA := marked a inA
    let fromB := marked b inB
    let count := fromA.length
    if count == 0 then 0.0
    else
      let swapped := ((fromA.zip fromB).filter fun (x, y) => x != y).length / 2
      let part (n m : Nat) : Float := n.toFloat / m.toFloat
      (part count a.length + part count b.length + part (count - swapped) count) / 3.0

/-- Words that are less alike are not like one another. -/
def enough : Float := 0.7

/-- A word with its likeness among others, which are in order. Of words that are equally alike the
one that comes later counts as more. -/
def rank (w : Float × String) : List (Float × String) → List (Float × String)
  | [] => [w]
  | v :: vs => if w.1 < v.1 then w :: v :: vs else v :: rank w vs

/-- **Those of some words that are like another one**, the most alike last. -/
def alike (word : String) (words : List String) : List String :=
  let rated := words.map fun w => (likeness word.toList w.toList, w)
  ((rated.filter fun w => enough < w.1).foldl (fun ws w => rank w ws) []).map (·.2)

end EnvSchema.Text
