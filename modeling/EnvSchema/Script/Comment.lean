import EnvSchema.Script.Span

/-!
# Comments

Comments are kept beside the tree of a script, by the place they are next to: *leading* comments by
the place where the token after them starts, *trailing* ones by the place where the token before
them ends.

* `Comments.addLeading`, `Comments.addTrailing` — put one more comment behind those of a place;
* `Comments.takeLeading`, `Comments.takeTrailing` — the comments of a place, and what is left
  without them: a comment can be taken once.
-/

namespace EnvSchema.Script

/-- How a comment is written. -/
inductive CommentKind where
  /-- To the end of its line. -/
  | line
  /-- Between brackets. -/
  | block
  deriving Repr, DecidableEq, Inhabited

/-- **A comment**, without its brackets. -/
structure Comment where
  /-- How it is written. -/
  kind : CommentKind
  /-- What stands between the brackets, or after the slashes. -/
  text : String
  deriving Repr, DecidableEq, Inhabited

/-- **The comments of a script**, by place and in the order in which they were found. -/
structure Comments where
  /-- Comments before the token that starts at a place. -/
  leading : List (Nat × Comment) := []
  /-- Comments behind the token that ends at a place. -/
  trailing : List (Nat × Comment) := []
  deriving Repr, DecidableEq, Inhabited

namespace Comments

/-- One more comment before the token that starts at a place. -/
def addLeading (cs : Comments) (place : Nat) (c : Comment) : Comments :=
  { cs with leading := cs.leading ++ [(place, c)] }

/-- One more comment behind the token that ends at a place. -/
def addTrailing (cs : Comments) (place : Nat) (c : Comment) : Comments :=
  { cs with trailing := cs.trailing ++ [(place, c)] }

/-- The comments of one place in a list, in order. -/
def on (place : Nat) (l : List (Nat × Comment)) : List Comment :=
  (l.filter fun p => p.1 == place).map (·.2)

/-- The leading comments of a place, and what is left without them. -/
def takeLeading (cs : Comments) (place : Nat) : List Comment × Comments :=
  (on place cs.leading, { cs with leading := cs.leading.filter fun p => p.1 != place })

/-- The trailing comments of a place, and what is left without them. -/
def takeTrailing (cs : Comments) (place : Nat) : List Comment × Comments :=
  (on place cs.trailing, { cs with trailing := cs.trailing.filter fun p => p.1 != place })

/-- Comments taken are gone. -/
theorem takeLeading_takeLeading (cs : Comments) (place : Nat) :
    ((cs.takeLeading place).2.takeLeading place).1 = [] := by
  simp [takeLeading, on, List.filter_filter]

/-- Comments taken are gone. -/
theorem takeTrailing_takeTrailing (cs : Comments) (place : Nat) :
    ((cs.takeTrailing place).2.takeTrailing place).1 = [] := by
  simp [takeTrailing, on, List.filter_filter]

end Comments

end EnvSchema.Script
