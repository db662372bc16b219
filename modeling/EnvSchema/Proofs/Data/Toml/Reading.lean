import EnvSchema.Data.Toml.Reader.Basic
import EnvSchema.Proofs.Steps

/-!
# What readers take and what they decline

A reader takes characters from the front of a text, or declines: then it stops with a fault that is not
final, so that another one may be tried. It is told reader by reader what each of them does with a text,
and from this what readers do that are made of others.

* `Read.bind_ok`, `Read.Declines.bind`, … — readers one behind the other;
* `Read.softly_of_ok`, `Read.softly_of_declines`, `Read.many_cons`, `Read.many_nil` — trying a reader, once
  or again and again;
* `blanks_append`, `gaps_append`, `lineEnd_newline` — what stands between the things that count.
-/

namespace EnvSchema.Data.Toml

namespace Read

variable {α β : Type} {read : Read α} {next : α → Read β} {cs rest mid : List Char} {a : α} {s : Stop}

/-! ### Readers one behind the other -/

/-- A reader that takes something is followed by the next one. -/
theorem bind_ok (h : read cs = .ok (a, rest)) : (read >>= next) cs = next a rest := by
  change (read cs >>= fun p => next p.1 p.2) = _
  rw [h]
  rfl

theorem bind_error (h : read cs = .error s) : (read >>= next) cs = .error s := by
  change (read cs >>= fun p => next p.1 p.2) = _
  rw [h]
  rfl

/-- **A reader declines**: it takes nothing, and another one may be tried. -/
def Declines (read : Read α) (cs : List Char) : Prop := ∃ s, read cs = .error s ∧ s.isFinal = false

theorem Declines.bind (h : Declines read cs) : Declines (read >>= next) cs := by
  obtain ⟨s, hs, hsoft⟩ := h
  exact ⟨s, bind_error hs, hsoft⟩

theorem Declines.bind_of_ok (h : read cs = .ok (a, rest)) (hn : Declines (next a) rest) :
    Declines (read >>= next) cs := by
  obtain ⟨s, hs, hsoft⟩ := hn
  exact ⟨s, (bind_ok h).trans hs, hsoft⟩

theorem declines_stop : Declines (stop : Read α) cs := ⟨_, rfl, rfl⟩

/-! ### What is said of faults -/

theorem saying_of_ok {change : Stop → Stop} (h : read cs = .ok (a, rest)) :
    saying change read cs = .ok (a, rest) := by
  rw [saying, h]

theorem certain_of_ok (h : read cs = .ok (a, rest)) : certain read cs = .ok (a, rest) := saying_of_ok h

theorem called_of_ok {label : Label} (h : read cs = .ok (a, rest)) : called label read cs = .ok (a, rest) :=
  saying_of_ok h

theorem wanting_of_ok {expected : List Expected} (h : read cs = .ok (a, rest)) :
    wanting expected read cs = .ok (a, rest) :=
  saying_of_ok h

theorem Declines.saying {change : Stop → Stop} (h : Declines read cs)
    (hchange : ∀ s, (change s).isFinal = s.isFinal) : Declines (saying change read) cs := by
  obtain ⟨s, hs, hsoft⟩ := h
  refine ⟨change s, ?_, (hchange s).trans hsoft⟩
  rw [Read.saying, hs]

theorem Declines.called {label : Label} (h : Declines read cs) : Declines (called label read) cs :=
  h.saying fun _ => rfl

theorem Declines.wanting {expected : List Expected} (h : Declines read cs) :
    Declines (wanting expected read) cs :=
  h.saying fun _ => rfl

theorem checked_of_ok {check : α → Except Cause β} {b : β} (h : read cs = .ok (a, rest))
    (hb : check a = .ok b) : checked check read cs = .ok (b, rest) := by
  rw [checked, h]
  dsimp only
  rw [hb]

theorem spanned_of_ok (h : read cs = .ok (a, rest)) :
    spanned read cs = .ok ((a, ⟨cs.length, rest.length⟩), rest) := by
  rw [spanned, h]

/-! ### Trying readers -/

theorem softly_of_ok (h : read cs = .ok (a, rest)) : softly read cs = .ok (some a, rest) := by
  rw [softly, h]

theorem softly_of_declines (h : Declines read cs) : softly read cs = .ok (none, cs) := by
  obtain ⟨s, hs, hsoft⟩ := h
  rw [softly, hs]
  dsimp only
  rw [if_neg (by simp [hsoft])]

theorem many_nil (h : Declines read cs) (n : Nat) : many read n cs = .ok ([], cs) := by
  cases n with
  | zero => rfl
  | succ n => exact bind_ok (softly_of_declines h)

theorem many_cons {n : Nat} {as : List α} (h : read cs = .ok (a, mid))
    (hmany : many read n mid = .ok (as, rest)) : many read (n + 1) cs = .ok (a :: as, rest) := by
  have hfirst : many read (n + 1) cs = (do return a :: (← many read n)) mid := bind_ok (softly_of_ok h)
  exact hfirst.trans (bind_ok hmany)

/-- A list whose separator is declined behind the first of its items. -/
theorem separated_of_ok {separator : Read Unit} {as : List α} (h : read cs = .ok (a, mid))
    (hmany : many (do separator; read) mid.length mid = .ok (as, rest)) :
    separated separator read cs = .ok (a :: as, rest) := by
  have hleft : (left : Read (List Char)) mid = .ok (mid, mid) := rfl
  exact (bind_ok h).trans ((bind_ok hleft).trans (bind_ok hmany))

/-! ### Characters -/

theorem peek_apply : (peek : Read (Option Char)) cs = .ok (cs.head?, cs) := rfl

theorem oneOf_cons {p : Char → Bool} {c : Char} (h : p c = true) : oneOf p (c :: cs) = .ok (c, cs) := by
  rw [oneOf, if_pos h]

theorem declines_oneOf {p : Char → Bool} (h : ∀ c ∈ cs.head?, p c = false) : Declines (oneOf p) cs := by
  cases cs with
  | nil => exact ⟨_, rfl, rfl⟩
  | cons c cs =>
    have hc := h c rfl
    refine ⟨{ left := cs.length + 1 }, ?_, rfl⟩
    rw [oneOf, if_neg (by simp [hc])]

theorem char_cons (c : Char) : char c (c :: cs) = .ok ((), cs) :=
  bind_ok (oneOf_cons (by simp))

theorem declines_char {c : Char} (h : ∀ d ∈ cs.head?, d ≠ c) : Declines (char c) cs :=
  (declines_oneOf fun d hd => by simpa using h d hd).bind

theorem literal_append {text : String} : literal text (text.toList ++ cs) = .ok ((), cs) := by
  rw [literal, if_pos (by simp), ← String.length_toList, List.drop_left]

end Read

open Read

variable {u cs rest : List Char} {c : Char}

/-! ### What stands between -/

theorem isBlank_iff : isBlank c = true ↔ c = ' ' ∨ c = '\t' := by simp [isBlank]

/-- Blanks are passed over, up to something else. -/
theorem blanks_append (hu : ∀ c ∈ u, isBlank c = true) (h : ∀ c ∈ cs.head?, isBlank c = false) :
    blanks (u ++ cs) = .ok ((), cs) := by
  have hdrop : cs.dropWhile isBlank = cs := by
    cases cs with
    | nil => rfl
    | cons c cs => rw [List.dropWhile_cons_of_neg (by simp [h c rfl])]
  change Except.ok ((), (u ++ cs).dropWhile isBlank) = _
  rw [List.dropWhile_append_of_pos hu, hdrop]

theorem blanks_self (h : ∀ c ∈ cs.head?, isBlank c = false) : blanks cs = .ok ((), cs) :=
  blanks_append (u := []) (fun _ hc => nomatch hc) h

theorem newline_cons : newline ('\n' :: cs) = .ok ((), cs) := rfl

/-- The end of a line right behind something. -/
theorem lineEnd_newline : lineEnd ('\n' :: cs) = .ok ((), cs) := by
  have hblanks : blanks ('\n' :: cs) = .ok ((), '\n' :: cs) := blanks_self (by simp [isBlank])
  have hcomment : Declines comment ('\n' :: cs) := (declines_char (by simp)).bind
  exact (bind_ok hblanks).trans ((bind_ok (softly_of_declines hcomment)).trans rfl)

/-- What may stand between the items of a list is passed over. -/
theorem gap_cons (h : isBlank c = true ∨ c = '\n') : gap (c :: cs) = .ok ((), cs) := by
  rcases h with h | rfl
  · rcases isBlank_iff.1 h with rfl | rfl <;> rfl
  · rfl

theorem declines_gap (h : ∀ c ∈ cs.head?, c ≠ '#' ∧ c ≠ '\n' ∧ c ≠ '\r' ∧ isBlank c = false) :
    Declines gap cs := by
  have hcomment : cs.head? ≠ some '#' := fun hc => (h '#' hc).1 rfl
  have hnewline : Declines newline cs := by
    refine ⟨{ left := cs.length }, ?_, rfl⟩
    have hnone : behindNewline? cs = none := by
      unfold behindNewline?
      split
      · exact absurd rfl (h '\n' rfl).2.1
      · exact absurd rfl (h '\r' rfl).2.2.1
      · rfl
    rw [newline, hnone]
  -- a gap is a comment, the end of a line or blanks, and none of them begins here
  refine .bind_of_ok peek_apply ?_
  split
  · next hc => exact absurd hc hcomment
  · refine .bind_of_ok (softly_of_declines hnewline) ?_
    exact (declines_oneOf fun c hc => (h c hc).2.2.2).bind

/-- Blanks and ends of lines are passed over, up to something else. -/
theorem gaps_append (hu : ∀ c ∈ u, isBlank c = true ∨ c = '\n')
    (h : ∀ c ∈ cs.head?, c ≠ '#' ∧ c ≠ '\n' ∧ c ≠ '\r' ∧ isBlank c = false) :
    gaps (u ++ cs) = .ok ((), cs) := by
  have hmany (n : Nat) : many gap (u.length + n) (u ++ cs) = .ok (List.replicate u.length (), cs) := by
    induction u with
    | nil => exact many_nil (declines_gap h) _
    | cons c u ih =>
      obtain ⟨hc, hu⟩ := List.forall_mem_cons.1 hu
      rw [List.length_cons, Nat.add_right_comm]
      exact many_cons (gap_cons hc) (ih hu)
  have hleft : (left : Read (List Char)) (u ++ cs) = .ok (u ++ cs, u ++ cs) := rfl
  refine (bind_ok hleft).trans ?_
  rw [List.length_append]
  exact bind_ok (hmany _)

end EnvSchema.Data.Toml
