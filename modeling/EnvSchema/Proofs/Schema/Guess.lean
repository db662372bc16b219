import EnvSchema.Proofs.Text.Pieces
import EnvSchema.Proofs.Text.Regexp
import EnvSchema.Schema.Guess

/-!
# What the words of a name suggest

A name suggests a type by what is found in it, and each of the expressions searched for consumes the
low lines around a word. Here this is said by the words alone: those between the low lines of the name
in capitals.

* `words` — the words of a name;
* `isFound_aWord_iff`, `isFound_firstWord_iff`, `isFound_lastWord_iff` — the expressions, by the words;
* `guess_eq` — the type that a name suggests, by the words;
* `Text.upper_map_toLower` — small letters of ASCII are as good as capitals;
* `ranked_by_words` — the order in which types are offered.
-/

namespace EnvSchema

namespace Text

/-- A letter of ASCII becomes what its small letter becomes. -/
private theorem capitals_toLower (c : Char) : capitals c.toLower = capitals c := by
  by_cases hc : c.toNat < 0x80
  · -- within ASCII all characters are tried, and beyond it no letter is made small
    have hall : ∀ n < 0x80, capitals (Char.ofNat n).toLower = capitals (Char.ofNat n) := by
      decide +kernel
    have hsame := hall c.toNat hc
    rwa [Char.ofNat_toNat] at hsame
  · have hlower : c.toLower = c := by
      refine dif_neg fun hupper => hc ?_
      have hlast : c.toNat ≤ 'Z'.toNat := hupper.2
      exact Nat.lt_of_le_of_lt hlast (by decide)
    rw [hlower]

/-- **A text in capitals** does not hang on which letters of ASCII are small. -/
theorem upper_map_toLower (cs : List Char) : upper (cs.map Char.toLower) = upper cs := by
  rw [upper, List.flatMap_map, funext capitals_toLower]
  rfl

end Text

open Text (Regexp)

variable {name : String} {w : String} {ws : List String}

/-- **The words of a name**: what stands between the low lines of it in capitals. -/
def words (name : String) : List String :=
  ((Text.upper name.toList).splitOn '_').map String.ofList

theorem mem_words_iff : w ∈ words name ↔ w.toList ∈ (Text.upper name.toList).splitOn '_' := by
  rw [words, List.mem_map]
  constructor
  · rintro ⟨piece, hpiece, rfl⟩
    rwa [String.toList_ofList]
  · exact fun h => ⟨w.toList, h, String.ofList_toList⟩

/-- A text is the one of some characters just if these are its characters. -/
private theorem map_ofList_eq_some_iff {o : Option (List Char)} :
    o.map String.ofList = some w ↔ o = some w.toList := by
  rw [Option.map_eq_some_iff]
  constructor
  · rintro ⟨piece, rfl, rfl⟩
    rw [String.toList_ofList]
  · rintro rfl
    exact ⟨w.toList, rfl, String.ofList_toList⟩

/-! ### The expressions -/

section

variable {text before piece after : List Char}

private theorem matches_lowLine_iff : lowLine.Matches before piece after ↔ piece = ['_'] := by
  simp [lowLine, Regexp.Matches]

/-- A search for one of two expressions finds one of them. -/
private theorem isFound_either_iff {r s : Regexp} :
    (r.either s).isFound text = true ↔ r.isFound text = true ∨ s.isFound text = true := by
  simp only [Regexp.isFound_iff, Regexp.Matches, and_or_left, exists_or]

/-- **A word is found** with its low lines just if it is one of the words. -/
theorem isFound_aWord_iff (hws : ∀ w ∈ ws, '_' ∉ w.toList) :
    (aWord ws).isFound text = true ↔ ∃ w ∈ ws, w.toList ∈ text.splitOn '_' := by
  simp only [Regexp.isFound_iff, aWord, Regexp.Matches, matches_lowLine_iff, Text.mem_splitOn_iff]
  constructor
  · rintro ⟨before, _, after, rfl, left, _, rfl, hleft, _, right, rfl, ⟨w, hw, rfl⟩, hright⟩
    -- the low lines that are found belong to what is before the word and behind it
    refine ⟨w, hw, hws w hw, before ++ left, right ++ after, by simp, ?_, ?_⟩
    · rcases hleft with ⟨rfl, rfl⟩ | rfl
      · exact .inl rfl
      · exact .inr ⟨before, rfl⟩
    · rcases hright with ⟨rfl, rfl⟩ | rfl
      · exact .inl rfl
      · exact .inr ⟨after, rfl⟩
  · rintro ⟨w, hw, -, before, after, rfl, hbefore, hafter⟩
    -- before the word there is nothing, or a low line that ends what is there
    have hleft : ∃ front left, before = front ++ left ∧ (front = [] ∧ left = [] ∨ left = ['_']) := by
      rcases hbefore with rfl | ⟨front, rfl⟩
      · exact ⟨[], [], rfl, .inl ⟨rfl, rfl⟩⟩
      · exact ⟨front, ['_'], rfl, .inr rfl⟩
    have hright : ∃ right rest, after = right ++ rest ∧ (rest = [] ∧ right = [] ∨ right = ['_']) := by
      rcases hafter with rfl | ⟨rest, rfl⟩
      · exact ⟨[], [], rfl, .inl ⟨rfl, rfl⟩⟩
      · exact ⟨['_'], rest, rfl, .inr rfl⟩
    obtain ⟨front, left, rfl, hleft⟩ := hleft
    obtain ⟨right, rest, rfl, hright⟩ := hright
    exact ⟨front, left ++ (w.toList ++ right), rest, by simp, left, _, rfl, hleft, w.toList, right, rfl,
      ⟨w, hw, rfl⟩, hright⟩

/-- **A first word is found** just if it is the first one of several words. -/
theorem isFound_firstWord_iff (hws : ∀ w ∈ ws, '_' ∉ w.toList) :
    (firstWord ws).isFound text = true ↔
      ∃ w ∈ ws, 2 ≤ (text.splitOn '_').length ∧ (text.splitOn '_').head? = some w.toList := by
  simp only [Regexp.isFound_iff, firstWord, Regexp.Matches, matches_lowLine_iff,
    Text.head?_splitOn_iff]
  constructor
  · rintro ⟨_, _, after, rfl, _, _, rfl, ⟨rfl, rfl⟩, _, _, rfl, ⟨w, hw, rfl⟩, rfl⟩
    exact ⟨w, hw, hws w hw, after, by simp⟩
  · rintro ⟨w, hw, -, after, rfl⟩
    exact ⟨[], w.toList ++ ['_'], after, by simp, [], _, rfl, ⟨rfl, rfl⟩, w.toList, _, rfl, ⟨w, hw, rfl⟩, rfl⟩

/-- **A last word is found** just if it is the last one of several words. -/
theorem isFound_lastWord_iff (hws : ∀ w ∈ ws, '_' ∉ w.toList) :
    (lastWord ws).isFound text = true ↔
      ∃ w ∈ ws, 2 ≤ (text.splitOn '_').length ∧ (text.splitOn '_').getLast? = some w.toList := by
  simp only [Regexp.isFound_iff, lastWord, Regexp.Matches, matches_lowLine_iff,
    Text.getLast?_splitOn_iff]
  constructor
  · rintro ⟨before, _, _, rfl, _, _, rfl, rfl, _, _, rfl, ⟨w, hw, rfl⟩, rfl, rfl⟩
    exact ⟨w, hw, hws w hw, before, by simp⟩
  · rintro ⟨w, hw, -, before, rfl⟩
    exact ⟨before, '_' :: w.toList, [], by simp, ['_'], _, rfl, rfl, w.toList, [],
      (List.append_nil _).symm, ⟨w, hw, rfl⟩, rfl, rfl⟩

end

/-! ### The type that a name suggests -/

/-- Names with one of some words. -/
private theorem isFound_words_iff (hws : ∀ w ∈ ws, '_' ∉ w.toList) :
    (aWord ws).isFound (Text.upper name.toList) = true ↔ ∃ w ∈ words name, w ∈ ws := by
  rw [isFound_aWord_iff hws]
  simp only [mem_words_iff, and_comm]

/-- **A name says yes or no** by one word anywhere, or by its first or last one of several. -/
theorem isFound_switchNames_iff : switchNames.isFound (Text.upper name.toList) = true ↔
    "DEBUG" ∈ words name ∨ 2 ≤ (words name).length ∧
      ((∃ w ∈ switchStarts, (words name).head? = some w) ∨
        ∃ w ∈ switchEnds, (words name).getLast? = some w) := by
  have hhead (w : String) : (words name).head? = some w ↔
      ((Text.upper name.toList).splitOn '_').head? = some w.toList := by
    rw [words, List.head?_map, map_ofList_eq_some_iff]
  have hlast (w : String) : (words name).getLast? = some w ↔
      ((Text.upper name.toList).splitOn '_').getLast? = some w.toList := by
    rw [words, List.getLast?_map, map_ofList_eq_some_iff]
  have hlength : (words name).length = ((Text.upper name.toList).splitOn '_').length :=
    List.length_map ..
  rw [switchNames, isFound_either_iff, isFound_either_iff, isFound_firstWord_iff (by decide),
    isFound_lastWord_iff (by decide), isFound_words_iff (by decide)]
  simp only [hhead, hlast, hlength, List.mem_singleton]
  grind

/-- **The type that a name suggests**, by its words. -/
theorem guess_eq (name : String) : guess name =
    if ∃ w ∈ words name, w ∈ urlWords then .url
    else if ∃ w ∈ words name, w ∈ numberWords then .number
    else if "DEBUG" ∈ words name ∨ 2 ≤ (words name).length ∧
      ((∃ w ∈ switchStarts, (words name).head? = some w) ∨
        ∃ w ∈ switchEnds, (words name).getLast? = some w) then .boolean
    else .text := by
  have hurl : ∀ w ∈ urlWords, '_' ∉ w.toList := by decide
  have hnumber : ∀ w ∈ numberWords, '_' ∉ w.toList := by decide
  simp only [guess, urlNames, numberNames, isFound_words_iff hurl, isFound_words_iff hnumber,
    isFound_switchNames_iff]

/-- The type that a name suggests has a call. -/
theorem guess_ne_other (name : String) : guess name ≠ .other := by
  rw [guess_eq]
  split_ifs <;> decide

/-- A word with a letter beyond ASCII whose capital is within it, and a name that ends with a line. -/
example : guess "max_\u017fize" = .number ∧ guess "PORT\n" = .text := by decide +kernel

/-- **The order in which types are offered.** Each is offered once, one that is none of the others comes
last, and those behind the first one are in their fixed order. The first one is told by the words of the
name, whichever letters of ASCII are small. -/
theorem ranked_by_words (name : String) :
    (∀ type, (ranked name).count type = 1) ∧ (ranked name).getLast? = some .other ∧
      (ranked name).tail.Sublist FieldType.all ∧
      (ranked name).head? = some (
        if ∃ w ∈ words name, w ∈ ["URL", "URI"] then .url
        else if ∃ w ∈ words name, w ∈ ["PORT", "COUNT", "SIZE", "TIMEOUT", "MS", "TTL", "LIMIT", "MAX",
          "MIN", "RETRIES"] then .number
        else if "DEBUG" ∈ words name ∨ 2 ≤ (words name).length ∧
          ((∃ w ∈ ["IS", "ENABLE", "DISABLE", "USE", "HAS"], (words name).head? = some w) ∨
            ∃ w ∈ ["ENABLED", "DISABLED"], (words name).getLast? = some w) then .boolean
        else .text) ∧
      ∀ other : String, other.toList.map Char.toLower = name.toList.map Char.toLower →
        ranked other = ranked name := by
  refine ⟨?_, ?_, List.filter_sublist, congrArg some (guess_eq name), fun other hother => ?_⟩
  · intro type
    rw [(ranked_perm name).count_eq]
    cases type <;> rfl
  · have hother := guess_ne_other name
    unfold ranked
    revert hother
    generalize guess name = type
    cases type <;> decide
  · -- the order is told by the name in capitals, and these are the same
    have hupper : Text.upper other.toList = Text.upper name.toList := by
      rw [← Text.upper_map_toLower, hother, Text.upper_map_toLower]
    unfold ranked guess
    rw [hupper]

/-- A name with small and capital letters is ranked as the one in capitals. -/
theorem ranked_by_words_mixed :
    "is_Ready".toList.map Char.toLower = "IS_READY".toList.map Char.toLower ∧
      ranked "is_Ready" = ranked "IS_READY" ∧ (ranked "IS_READY").head? = some .boolean := by
  have hsame : "is_Ready".toList.map Char.toLower = "IS_READY".toList.map Char.toLower := by
    decide +kernel
  exact ⟨hsame, (ranked_by_words "IS_READY").2.2.2.2 "is_Ready" hsame, by decide +kernel⟩

end EnvSchema
