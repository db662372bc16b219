/-!
# Patterns for names

A pattern says which names of files are meant. In it a question mark stands for any character, a
star for any text, and brackets for one of the characters between them, or for any other one if a
bang stands first. Two stars make up a piece of their own: they stand for any folders on the way.

* `Pattern.parse` — reads a pattern, or says where it is none;
* `Pattern.matches` — whether a name is meant;
* `escape` — the pattern that stands for a text and nothing else.
-/

namespace EnvSchema.Glob

/-! ### Characters and tokens -/

/-- A character between brackets, or two with all that lie between them. -/
structure Stretch where
  first : Char
  last : Char
  deriving Repr, DecidableEq

/-- Whether a character is one of those between brackets. -/
def Stretch.has (s : Stretch) (c : Char) : Bool := s.first ≤ c && c ≤ s.last

/-- **One sign of a pattern.** -/
inductive Token where
  | char (c : Char)
  | anyChar
  | anyText
  /-- Any folders on the way, or none. -/
  | anyFolders
  /-- One of some characters, or a character that is none of them. -/
  | oneOf (isNegated : Bool) (stretches : List Stretch)
  deriving Repr, DecidableEq

/-- Signs that follow one another. -/
abbrev Pattern := List Token

/-- **Why a text is no pattern.** -/
inductive FaultKind where
  | manyStars
  | partialStars
  | brackets
  deriving Repr, DecidableEq

/-- Why a text is no pattern, and near which character. -/
structure Fault where
  kind : FaultKind
  position : Nat
  deriving Repr, DecidableEq

/-- How a fault is reported. -/
def Fault.message (f : Fault) : String :=
  "Pattern syntax error near position " ++ toString f.position ++ ": " ++
    match f.kind with
    | .manyStars => "wildcards are either regular `*` or recursive `**`"
    | .partialStars => "recursive wildcards must form a single path component"
    | .brackets => "invalid range pattern"

/-! ### Reading -/

/-- The characters between brackets: a dash between two characters joins them to a stretch. -/
def stretches : List Char → List Stretch
  | a :: '-' :: b :: cs => ⟨a, b⟩ :: stretches cs
  | a :: cs => ⟨a, a⟩ :: stretches cs
  | [] => []

/-- What stands in brackets, and what follows them. At least one character stands in them, and the
first one may be a closing bracket. -/
def bracketed? : List Char → Option (List Char × List Char)
  | [] => none
  | c :: cs =>
    match cs.dropWhile (· != ']') with
    | [] => none
    | _ :: rest => some (c :: cs.takeWhile (· != ']'), rest)

/-- What follows brackets is shorter than they are. -/
theorem length_bracketed? {cs inside rest : List Char} (h : bracketed? cs = some (inside, rest)) :
    rest.length < cs.length := by
  match cs with
  | [] => simp [bracketed?] at h
  | c :: cs =>
    have shorter := (List.dropWhile_suffix (l := cs) (· != ']')).length_le
    simp only [bracketed?] at h
    split at h
    · simp at h
    · rename_i e
      rw [e] at shorter
      simp only [Option.some.injEq, Prod.mk.injEq] at h
      simp only [List.length_cons] at *
      rw [← h.2]
      omega

/-- The characters behind an opening bracket as a sign: whether they are the ones meant, what stands
in the brackets, and what follows them. -/
def choice? (cs : List Char) : Option (Bool × List Char × List Char) :=
  match cs with
  | '!' :: cs => (bracketed? cs).map fun r => (true, r)
  | cs => (bracketed? cs).map fun r => (false, r)

/-- What follows a choice is shorter than the choice. -/
theorem length_choice? {cs inside rest : List Char} {b : Bool}
    (h : choice? cs = some (b, inside, rest)) : rest.length < cs.length := by
  unfold choice? at h
  split at h
  · obtain ⟨r, found, e⟩ := Option.map_eq_some_iff.1 h
    simp only [Prod.mk.injEq] at e
    obtain ⟨-, rfl⟩ := e
    have := length_bracketed? found
    simp only [List.length_cons]
    omega
  · obtain ⟨r, found, e⟩ := Option.map_eq_some_iff.1 h
    simp only [Prod.mk.injEq] at e
    obtain ⟨-, rfl⟩ := e
    exact length_bracketed? found

/-- Reads the signs from a position on. The character before it is none where the pattern starts. -/
def parseFrom (position : Nat) (before : Option Char) : List Char → Except Fault Pattern
  | [] => .ok []
  | '?' :: cs => do return .anyChar :: (← parseFrom (position + 1) (some '?') cs)
  | '*' :: '*' :: '*' :: _ => .error ⟨.manyStars, position + 2⟩
  | '*' :: '*' :: cs =>
    if before.any (· != '/') then .error ⟨.partialStars, position - 1⟩
    else
      match cs with
      | [] => .ok [.anyFolders]
      | '/' :: cs => do return .anyFolders :: (← parseFrom (position + 3) (some '/') cs)
      | _ => .error ⟨.partialStars, position + 2⟩
  | '*' :: cs => do return .anyText :: (← parseFrom (position + 1) (some '*') cs)
  | '[' :: cs =>
    match h : choice? cs with
    | none => .error ⟨.brackets, position⟩
    | some (isNegated, inside, rest) =>
      have := length_choice? h
      do return .oneOf isNegated (stretches inside) ::
        (← parseFrom (position + 1 + cs.length - rest.length) (some ']') rest)
  | c :: cs => do return .char c :: (← parseFrom (position + 1) (some c) cs)
  termination_by cs => cs.length

/-- **Reads a pattern.** -/
def Pattern.parse (text : String) : Except Fault Pattern := parseFrom 0 none text.toList

/-! ### Names that are meant -/

/-- Whether a sign that stands for one character stands for this one. -/
def Token.fits (t : Token) (c : Char) : Bool :=
  match t with
  | .char d => c == d
  | .anyChar => true
  | .oneOf isNegated ss => (ss.any (·.has c)) != isNegated
  | .anyText | .anyFolders => false

/-- Whether some end of a text has a property. -/
def anyEnd (p : List Char → Bool) : List Char → Bool
  | [] => p []
  | c :: cs => p (c :: cs) || anyEnd p cs

/-- **Whether a name is meant.** -/
def Pattern.matches : Pattern → List Char → Bool
  | [], cs => cs.isEmpty
  | .anyText :: ts, cs => anyEnd (Pattern.matches ts) cs
  | .anyFolders :: ts, cs => anyEnd (Pattern.matches ts) cs
  | _ :: _, [] => false
  | t :: ts, c :: cs => t.fits c && Pattern.matches ts cs

/-- The text that a pattern without special signs stands for. -/
def Pattern.text? (p : Pattern) : Option String :=
  (p.mapM fun t => match t with | Token.char c => some c | _ => none).map String.ofList

/-- **The pattern that stands for a text and nothing else.** -/
def escape (text : String) : String :=
  String.ofList (text.toList.flatMap fun c =>
    if c = '?' ∨ c = '*' ∨ c = '[' ∨ c = ']' then ['[', c, ']'] else [c])

end EnvSchema.Glob
