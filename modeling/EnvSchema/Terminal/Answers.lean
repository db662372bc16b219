import EnvSchema.Failure
import EnvSchema.Schema.FieldType
import EnvSchema.Terminal.Keys

/-!
# Answers given by keys

* `confirm` — yes or no, typed and sent with Enter;
* `fitness?` — how well an entry of a list fits what is typed;
* `pick` — an entry of a list, which typing makes shorter and the arrows go through.
-/

namespace EnvSchema.Terminal

/-! ### Yes or no -/

/-- What a typed answer means; no answer means yes. -/
def meaning? (typed : String) : Option Bool :=
  let s := typed.map Char.toLower
  if s == "" || s == "y" || s == "yes" then some true
  else if s == "n" || s == "no" then some false
  else none

/-- **Yes or no.** An answer that is neither stays to be changed. Where no key is left, nothing was
answered. -/
def confirm (typed : List Char) : List Key → Except Refusal Bool
  | [] => .error .canceled
  | .escape :: _ => .error .canceled
  | .interrupt :: _ => .error .interrupted
  | .enter :: keys =>
    match meaning? (String.ofList typed) with
    | some b => .ok b
    | none => confirm typed keys
  | .backspace :: keys => confirm typed.dropLast keys
  | .char c :: keys => confirm (typed ++ [c]) keys
  | _ :: keys => confirm typed keys

/-! ### One of a list -/

/-- What a letter that fits counts. -/
def letterFits : Int := 16

/-- What it counts more if it is the first letter of the entry. -/
def atStart : Int := 16

/-- What it counts more if the letter before it fits as well. -/
def adjacent : Int := 4

/-- What letters count that are skipped between letters that fit. -/
def skipped (n : Nat) : Int := if n = 0 then adjacent else -3 - (n - 1 : Nat)

/-- The better one of two. -/
def better : Option Int → Option Int → Option Int
  | some a, some b => some (max a b)
  | a, none => a
  | none, b => b

/-- How well letters fit the rest of an entry, where `gap` letters were skipped since the last one
that fits; none fits so far if there is no such number. -/
def fitnessFrom (typed : List Char) (isStart : Bool) (gap : Option Nat) : List Char → Option Int
  | [] => if typed.isEmpty then some 0 else none
  | c :: cs =>
    match typed with
    | [] => some 0
    | t :: ts =>
      let here :=
        if t.toLower == c.toLower then
          let extra := match gap with
            | none => if isStart then atStart else 0
            | some n => skipped n
          (fitnessFrom ts false (some 0) cs).map (letterFits + extra + ·)
        else none
      better here (fitnessFrom typed false (gap.map (· + 1)) cs)

/-- **How well an entry fits what is typed**, if the letters typed stand in it in their order. -/
def fitness? (typed entry : List Char) : Option Int := fitnessFrom typed true none entry

/-- An entry among others, which are in order: the ones that fit better come first. -/
def place {α : Type} (e : Int × α) : List (Int × α) → List (Int × α)
  | [] => [e]
  | f :: fs => if f.1 < e.1 then e :: f :: fs else f :: place e fs

/-- **The entries that fit what is typed**, the best first. -/
def fitting (typed : List Char) (entries : List FieldType) : List FieldType :=
  let rated := entries.filterMap fun t => (fitness? typed t.name.toList).map fun n => (n, t)
  (rated.foldl (fun fs e => place e fs) []).map (·.2)

/-- The place of the mark when what is typed changes: it goes back to the start if other entries are
left. -/
def markAfter (before after : List FieldType) (mark : Nat) : Nat := if before = after then mark else 0

/-- **One entry of a list.** Where no key is left, nothing was picked. -/
def pick (entries : List FieldType) (typed : List Char) (mark : Nat) : List Key → Except Refusal FieldType
  | [] => .error .canceled
  | .escape :: _ => .error .canceled
  | .interrupt :: _ => .error .interrupted
  | .enter :: keys =>
    match (fitting typed entries)[mark]? with
    | some t => .ok t
    | none => pick entries typed mark keys
  | .up :: keys =>
    let n := (fitting typed entries).length
    pick entries typed (if mark = 0 then n - 1 else mark - 1) keys
  | .down :: keys =>
    let n := (fitting typed entries).length
    pick entries typed (if mark + 1 < n then mark + 1 else 0) keys
  | .backspace :: keys =>
    pick entries typed.dropLast
      (markAfter (fitting typed entries) (fitting typed.dropLast entries) mark) keys
  | .char c :: keys =>
    pick entries (typed ++ [c])
      (markAfter (fitting typed entries) (fitting (typed ++ [c]) entries) mark) keys
  | .other :: keys => pick entries typed mark keys

end EnvSchema.Terminal
