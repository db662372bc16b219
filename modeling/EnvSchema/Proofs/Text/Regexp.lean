import EnvSchema.Text.Regexp
import Mathlib.Data.List.Basic

/-!
# What regular expressions match

A search goes through the places of a text and follows the expression from each of them. What it finds
can be said without any places: a piece of the text, by what the expression is made of and by the texts
on both sides of the piece.

* `Regexp.Matches` — a piece between two texts matches an expression;
* `Regexp.mem_ends_iff` — following an expression ends behind the pieces that match;
* `Regexp.isFound_iff` — a search finds an expression just if a piece matches.
-/

namespace EnvSchema.Text

variable {text piece behind cs : List Char} {p q : Place}

/-- The places of a text are those behind its beginnings. -/
theorem Place.mem_onward_iff :
    p ∈ onward behind cs ↔ ∃ before, cs = before ++ p.ahead ∧ p.behind = before.reverse ++ behind := by
  obtain ⟨pbehind, pahead⟩ := p
  induction cs generalizing behind with
  | nil =>
    rw [onward, List.mem_singleton, Place.mk.injEq]
    constructor
    · rintro ⟨rfl, rfl⟩
      exact ⟨[], rfl, rfl⟩
    · rintro ⟨before, hcs, hbehind⟩
      obtain ⟨rfl, hahead⟩ := List.append_eq_nil_iff.1 hcs.symm
      exact ⟨hbehind, hahead⟩
  | cons c cs ih =>
    rw [onward, List.mem_cons, Place.mk.injEq, ih]
    constructor
    · rintro (⟨rfl, rfl⟩ | ⟨before, rfl, rfl⟩)
      · exact ⟨[], rfl, rfl⟩
      · exact ⟨c :: before, rfl, by simp⟩
    · rintro ⟨before, hcs, hbehind⟩
      cases before with
      | nil => exact .inl ⟨hbehind, hcs.symm⟩
      | cons d before =>
        obtain ⟨rfl, htail⟩ := List.cons.inj hcs
        exact .inr ⟨before, htail, by simpa using hbehind⟩

namespace Regexp

/-- **A piece of a text matches an expression**, where one text stands before it and another one
behind. -/
def Matches : Regexp → List Char → List Char → List Char → Prop
  | start, before, piece, _ => before = [] ∧ piece = []
  | finish, _, piece, after => after = [] ∧ piece = []
  | oneOf words, _, piece, _ => ∃ w ∈ words, piece = w.toList
  | seq first second, before, piece, after => ∃ left right, piece = left ++ right ∧
      first.Matches before left (right ++ after) ∧ second.Matches (before ++ left) right after
  | either first second, before, piece, after =>
      first.Matches before piece after ∨ second.Matches before piece after

/-- A place lies behind a piece of the text that is ahead of another one. -/
def Between (p q : Place) (piece : List Char) : Prop :=
  p.ahead = piece ++ q.ahead ∧ q.behind = piece.reverse ++ p.behind

theorem between_self_iff : Between p q [] ↔ p = q := by
  obtain ⟨pbehind, pahead⟩ := p
  obtain ⟨qbehind, qahead⟩ := q
  simp only [Between, List.nil_append, List.reverse_nil, Place.mk.injEq]
  exact ⟨fun h => ⟨h.2.symm, h.1⟩, fun h => ⟨h.2, h.1.symm⟩⟩

theorem between_iff_past : Between p q piece ↔ piece <+: p.ahead ∧ q = p.past piece := by
  obtain ⟨pbehind, pahead⟩ := p
  obtain ⟨qbehind, qahead⟩ := q
  simp only [Between, Place.past, Place.mk.injEq]
  constructor
  · rintro ⟨rfl, rfl⟩
    exact ⟨List.prefix_append .., rfl, (List.drop_left ..).symm⟩
  · rintro ⟨⟨rest, rfl⟩, rfl, rfl⟩
    simp

/-- **An expression ends behind the pieces that match it.** -/
theorem mem_ends_iff {r : Regexp} : q ∈ r.ends p ↔
    ∃ piece, Between p q piece ∧ r.Matches p.behind.reverse piece q.ahead := by
  induction r generalizing p q with
  | start =>
    have hends : q ∈ start.ends p ↔ p.behind = [] ∧ p = q := by
      rw [ends]
      cases hp : p.behind <;> simp [eq_comm]
    rw [hends]
    constructor
    · rintro ⟨hp, hpq⟩
      exact ⟨[], between_self_iff.2 hpq, by simp [hp], rfl⟩
    · rintro ⟨piece, hpq, hp, rfl⟩
      exact ⟨by simpa using hp, between_self_iff.1 hpq⟩
  | finish =>
    have hends : q ∈ finish.ends p ↔ p.ahead = [] ∧ p = q := by
      rw [ends]
      cases hp : p.ahead <;> simp [eq_comm]
    rw [hends]
    constructor
    · rintro ⟨hp, rfl⟩
      exact ⟨[], between_self_iff.2 rfl, hp, rfl⟩
    · rintro ⟨piece, hpq, hq, rfl⟩
      obtain rfl := between_self_iff.1 hpq
      exact ⟨hq, rfl⟩
  | oneOf words =>
    simp only [ends, List.mem_map, List.mem_filter, List.isPrefixOf_iff_prefix]
    constructor
    · rintro ⟨w, ⟨hw, hahead⟩, rfl⟩
      exact ⟨w.toList, between_iff_past.2 ⟨hahead, rfl⟩, w, hw, rfl⟩
    · rintro ⟨piece, hpq, w, hw, rfl⟩
      obtain ⟨hahead, rfl⟩ := between_iff_past.1 hpq
      exact ⟨w, ⟨hw, hahead⟩, rfl⟩
  | seq first second hfirst hsecond =>
    simp only [ends, List.mem_flatMap, hfirst, hsecond]
    constructor
    · rintro ⟨m, ⟨left, ⟨hleft, hm⟩, hone⟩, right, ⟨hright, hq⟩, htwo⟩
      refine ⟨left ++ right, ⟨by simp [hleft, hright], by simp [hq, hm]⟩, left, right, rfl, ?_, ?_⟩
      · rwa [← hright]
      · simpa [hm] using htwo
    · rintro ⟨piece, ⟨hahead, hq⟩, left, right, rfl, hone, htwo⟩
      refine ⟨⟨left.reverse ++ p.behind, right ++ q.ahead⟩, ⟨left, ⟨?_, rfl⟩, hone⟩, right, ⟨rfl, ?_⟩, ?_⟩
      · rw [hahead, List.append_assoc]
      · rw [hq, List.reverse_append, List.append_assoc]
      · simpa using htwo
  | either first second hfirst hsecond =>
    simp only [ends, List.mem_append, hfirst, hsecond, Matches]
    constructor
    · rintro (⟨piece, hpq, h⟩ | ⟨piece, hpq, h⟩)
      · exact ⟨piece, hpq, .inl h⟩
      · exact ⟨piece, hpq, .inr h⟩
    · rintro ⟨piece, hpq, h | h⟩
      · exact .inl ⟨piece, hpq, h⟩
      · exact .inr ⟨piece, hpq, h⟩

/-- **A search finds an expression** just if a piece of the text matches it. -/
theorem isFound_iff {r : Regexp} : r.isFound text = true ↔
    ∃ before piece after, text = before ++ piece ++ after ∧ r.Matches before piece after := by
  have hsome (p : Place) : (!(r.ends p).isEmpty) = true ↔ ∃ q, q ∈ r.ends p := by
    rw [Bool.not_eq_true', List.isEmpty_eq_false_iff_exists_mem]
  simp only [isFound, List.any_eq_true, hsome, mem_ends_iff, Place.mem_onward_iff, List.append_nil]
  constructor
  · rintro ⟨p, ⟨before, rfl, hp⟩, q, piece, ⟨hahead, -⟩, h⟩
    refine ⟨before, piece, q.ahead, by rw [hahead, List.append_assoc], ?_⟩
    rwa [hp, List.reverse_reverse] at h
  · rintro ⟨before, piece, after, rfl, h⟩
    refine ⟨⟨before.reverse, piece ++ after⟩, ⟨before, List.append_assoc .., rfl⟩,
      ⟨piece.reverse ++ before.reverse, after⟩, piece, ⟨rfl, rfl⟩, ?_⟩
    rwa [List.reverse_reverse]

end Regexp

end EnvSchema.Text
