import EnvSchema.Glob.Pattern
import EnvSchema.Proofs.Files.Path
import EnvSchema.Proofs.Steps

/-!
# What patterns stand for

An escaped text is a pattern whose signs stand for the characters of the text, one by one. This is so
wherever it stands in a pattern, and for every piece of it between slashes.

* `literal`, `matches_literals_iff` — the sign that stands for a character;
* `Reads` — how a part of a pattern is read wherever it stands, and `reads_escape`, for escaped texts;
* `pieces_escape` — the pieces of an escaped path;
* `matches_ending_iff` — the names that end with a dot and a text.
-/

namespace EnvSchema.Glob

open Files (pieces)

variable {cs ds : List Char} {ts : Pattern} {c d : Char}

/-! ### Signs for characters -/

/-- Characters that mean something else in a pattern. -/
def IsSpecial (c : Char) : Prop := c = '?' ∨ c = '*' ∨ c = '[' ∨ c = ']'

instance : Decidable (IsSpecial c) := inferInstanceAs (Decidable (_ ∨ _))

/-- **The sign that stands for a character** in an escaped text. -/
def literal (c : Char) : Token := if IsSpecial c then .oneOf false [⟨c, c⟩] else .char c

/-- It stands for nothing else. -/
theorem fits_literal_iff : (literal c).fits d = true ↔ d = c := by
  unfold literal
  split
  · simp only [Token.fits, Stretch.has, List.any_cons, List.any_nil, Bool.or_false, bne_iff_ne,
      ne_eq, Bool.not_eq_false, Bool.and_eq_true, decide_eq_true_eq]
    constructor
    · rintro ⟨hle, hge⟩
      exact Char.le_antisymm hge hle
    · rintro rfl
      exact ⟨Char.le_refl _, Char.le_refl _⟩
  · simp [Token.fits]

/-- The signs for the characters of a text stand for the text. -/
theorem matches_literals_iff : Pattern.matches (cs.map literal) ds = true ↔ ds = cs := by
  induction cs generalizing ds with
  | nil => simp [Pattern.matches]
  | cons c cs ih =>
    rw [List.map_cons]
    cases ds with
    | nil =>
      have hnone : Pattern.matches (literal c :: cs.map literal) [] = false := by
        unfold literal
        split <;> rfl
      simp [hnone]
    | cons d ds =>
      have hfirst : Pattern.matches (literal c :: cs.map literal) (d :: ds) =
          ((literal c).fits d && Pattern.matches (cs.map literal) ds) := by
        unfold literal
        split <;> rfl
      simp [hfirst, fits_literal_iff, ih]

/-! ### Reading -/

/-- **A part of a pattern is read in the same way** wherever it stands, to the end of the pattern. -/
def Reads (cs : List Char) (ts : Pattern) : Prop :=
  ∀ position before, parseFrom position before cs = .ok ts

theorem Reads.nil : Reads [] [] := fun _ _ => by rw [parseFrom]

theorem Reads.char (h : Reads cs ts) (hc : c ≠ '?' ∧ c ≠ '*' ∧ c ≠ '[') :
    Reads (c :: cs) (.char c :: ts) := by
  intro position before
  rw [parseFrom]
  · rw [h]
    rfl
  all_goals simp_all

/-- A character between brackets is read as that character. -/
theorem Reads.bracketed (h : Reads cs ts) (hc : c ≠ '!') :
    Reads ('[' :: c :: ']' :: cs) (.oneOf false [⟨c, c⟩] :: ts) := by
  intro position before
  have hchoice : choice? (c :: ']' :: cs) = some (false, [c], cs) := by
    unfold choice?
    split
    · simp_all
    · simp [bracketed?]
  rw [parseFrom]
  split
  · simp_all
  · next found =>
    rw [hchoice] at found
    cases found
    rw [h]
    rfl

/-- Two stars between slashes stand for folders. -/
theorem Reads.folders (h : Reads cs ts) :
    Reads ('/' :: '*' :: '*' :: '/' :: cs) (.char '/' :: .anyFolders :: ts) := by
  intro position before
  -- the slash before them is what makes them a piece of their own
  have hstars : parseFrom (position + 1) (some '/') ('*' :: '*' :: '/' :: cs) =
      .ok (.anyFolders :: ts) := by
    rw [parseFrom]
    simp [h _ _, bind, Except.bind, pure, Except.pure]
  rw [parseFrom]
  · rw [hstars]
    rfl
  all_goals simp

/-- A star before a dot stands for any text. -/
theorem Reads.anyText (h : Reads ('.' :: cs) ts) : Reads ('*' :: '.' :: cs) (.anyText :: ts) := by
  intro position before
  rw [parseFrom]
  · rw [h]
    rfl
  all_goals simp

/-- The characters of an escaped text. -/
def escaped (cs : List Char) : List Char := cs.flatMap fun c => if IsSpecial c then ['[', c, ']'] else [c]

theorem toList_escape (text : String) : (escape text).toList = escaped text.toList := by
  rw [escape, String.toList_ofList]
  rfl

/-- **An escaped text is read** as the signs for its characters. -/
theorem reads_escaped (cs : List Char) (h : Reads ds ts) : Reads (escaped cs ++ ds) (cs.map literal ++ ts) := by
  induction cs with
  | nil => exact h
  | cons c cs ih =>
    rw [escaped, List.flatMap_cons, List.map_cons, literal]
    split
    · next hspecial =>
      have hbang : c ≠ '!' := by
        rintro rfl
        exact absurd hspecial (by decide)
      exact ih.bracketed hbang
    · next hspecial =>
      refine ih.char ⟨?_, ?_, ?_⟩ <;> exact fun hc => hspecial (by simp [IsSpecial, hc])

theorem parse_escape (text : String) : Pattern.parse (escape text) = .ok (text.toList.map literal) := by
  have hreads := reads_escaped text.toList Reads.nil
  rw [List.append_nil, List.append_nil] at hreads
  rw [Pattern.parse, toList_escape]
  exact hreads 0 none

theorem parse_folders : Pattern.parse "**" = .ok [.anyFolders] := by
  change parseFrom 0 none ['*', '*'] = _
  rw [parseFrom]
  rfl

/-! ### Pieces -/

/-- Text before the first separator belongs to the first piece. -/
private theorem splitOn_append_of_not_mem {α : Type} [BEq α] [LawfulBEq α] {a : α} {xs ys : List α}
    (h : a ∉ xs) : (xs ++ ys).splitOn a = (ys.splitOn a).modifyHead (xs ++ ·) := by
  induction xs with
  | nil =>
    obtain ⟨first, rest, hl⟩ := List.exists_cons_of_ne_nil (List.splitOn_ne_nil a ys)
    rw [List.nil_append, hl]
    rfl
  | cons x xs ih =>
    rw [List.mem_cons, not_or] at h
    rw [List.cons_append, List.splitOn_cons_eq_if_modifyHead, if_neg (by simpa using Ne.symm h.1),
      ih h.2, List.modifyHead_modifyHead]
    rfl

/-- **The pieces of an escaped path** are the escaped pieces of the path. -/
theorem pieces_escape (path : String) : pieces (escape path) = (pieces path).map escape := by
  -- no character that is added is a slash, and a slash itself is not special
  have hchars (cs : List Char) : (escaped cs).splitOn '/' = (cs.splitOn '/').map escaped := by
    induction cs with
    | nil => rfl
    | cons c cs ih =>
      have hcons : escaped (c :: cs) = escaped [c] ++ escaped cs := by simp [escaped]
      rw [hcons, List.splitOn_cons_eq_if_modifyHead]
      split
      · next hc =>
        rw [beq_iff_eq.1 hc, List.map_cons, ← ih]
        exact List.splitOn_append_cons_self [] _
      · next hc =>
        have hslash : '/' ∉ escaped [c] := by
          have hne : '/' ≠ c := fun h => hc (by simp [← h])
          unfold escaped
          by_cases hspecial : IsSpecial c <;> simp [hspecial, hne]
        obtain ⟨first, rest, hl⟩ := List.exists_cons_of_ne_nil (List.splitOn_ne_nil '/' cs)
        rw [splitOn_append_of_not_mem hslash, ih, hl]
        simp [escaped]
  unfold pieces
  rw [toList_escape, hchars, List.map_map, List.map_map]
  refine List.map_congr_left fun cs _ => ?_
  rw [Function.comp_apply, Function.comp_apply, escape, String.toList_ofList]
  rfl

/-! ### Names with an ending -/

/-- Some end of a text has a property. -/
theorem anyEnd_iff {p : List Char → Bool} : anyEnd p ds = true ↔ ∃ last, last <:+ ds ∧ p last = true := by
  induction ds with
  | nil => simp [anyEnd]
  | cons d ds ih =>
    rw [anyEnd, Bool.or_eq_true, ih]
    simp only [List.suffix_cons_iff, or_and_right, exists_or, exists_eq_left]

/-- **A star and a text** stand for whatever ends with the text. -/
theorem matches_ending_iff : Pattern.matches (.anyText :: cs.map literal) ds = true ↔ cs <:+ ds := by
  rw [Pattern.matches, anyEnd_iff]
  simp only [matches_literals_iff, exists_eq_right]

end EnvSchema.Glob
