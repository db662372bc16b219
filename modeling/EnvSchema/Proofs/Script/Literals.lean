import EnvSchema.Proofs.Script.Gaps
import EnvSchema.Proofs.Script.Yields

/-!
# Literals, cut

The tokens that may hold more than a line are quoted texts, pieces of templates and texts between
elements. Each of them keeps its characters as they stand ahead when it is read. So a literal of which
a line has been cut is not the one that is read from the text with its lines cut.

* `Kept` — a token keeps characters that stood ahead in an earlier state;
* `ReadsLiteral` — a literal is read;
* `ReadsLiteral.not_breaks` — a literal that is read from a text and from the text with its lines cut
  has no line in it that is cut.
-/

namespace EnvSchema.Script

/-- The text of a token that is kept as it stands. -/
def Token.raw? : Token → Option String
  | .string _ raw => some raw
  | .template raw _ => some raw
  | .elementText _ raw => some raw
  | _ => none

/-- A token that is no text between elements. -/
def Token.IsPlain (t : Token) : Prop := ∀ value raw, t ≠ .elementText value raw

namespace Read

variable {r s : Reader} {raw : String} {t : Token}

/-- The text of a token, if it is kept, is one that an earlier state had ahead. -/
def Kept (before : Reader) (t : Token) : Prop := ∀ raw, t.raw? = some raw → raw.toList <+: before.rest

private theorem kept_of_none {before : Reader} (h : t.raw? = none) : Kept before t := by
  intro raw hraw
  rw [h] at hraw
  cases hraw

private theorem passedSince_yields {before : Reader} {make : String → Token}
    (h : ∀ raw, (make raw).raw? = some raw) :
    Yields (passedSince before) fun raw => Kept before (make raw) := by
  intro r raw s hraw kept hkept
  cases hraw
  rw [h] at hkept
  cases hkept
  rw [String.toList_ofList]
  exact List.take_prefix _ _

private theorem quoted_kept (h : quoted r = .ok t s) : Kept r t := by
  obtain ⟨before, u, hbefore, h⟩ := bind_eq_ok_iff.1 h
  cases hbefore
  refine Yields.after (fun _ => .after fun _ => .after fun value => ?_) r t s h
  exact (passedSince_yields fun _ => rfl).bind fun _ hraw => .pure hraw

private theorem elementQuoted_kept {quote : Char} (h : elementQuoted quote r = .ok t s) : Kept r t := by
  obtain ⟨before, u, hbefore, h⟩ := bind_eq_ok_iff.1 h
  cases hbefore
  have hend (value : List Char) : Yields (do return .string (String.ofList value) (← passedSince r))
      (Kept r) :=
    (passedSince_yields fun _ => rfl).bind fun _ hraw => .pure hraw
  refine Yields.after (fun _ => .after fun value => .after fun _ => .ite ?_ ?_) r t s h
  · exact .after fun _ => hend value
  · exact hend value

/-- A piece of a template is kept as it stands. -/
private theorem templatePiece_kept (h : templatePiece r = .ok t s) : Kept r t := by
  obtain ⟨before, u, hbefore, h⟩ := bind_eq_ok_iff.1 h
  cases hbefore
  have hfinish (cooked : Except Diagnostic (List (List Char))) :
      Yields (templatePiece.finish r cooked) (Kept r) :=
    (passedSince_yields fun _ => rfl).bind fun _ hraw => .pure hraw
  have hmark (m : String) : Yields (mark m) (Kept r) := .after fun _ => .pure (kept_of_none rfl)
  -- the cases are those of the reader: what ends the piece answers it, all else goes on
  refine Yields.loop (fun _ => True) trivial (fun cooked _ => .after fun run => .after fun u => ?_) r t s h
  split
  · exact .after fun _ => .fail
  · refine .after fun o => ?_
    cases o with
    | ok cs => exact .pure trivial
    | error d => exact .pure trivial
  · refine .ite (.ite ?_ ?_) (.after fun _ => .pure trivial)
    · exact (hmark _).bind fun _ ht => .pure ht
    · exact (hfinish _).bind fun _ ht => .pure ht
  · refine .ite ?_ ?_
    · exact (hmark _).bind fun _ ht => .pure ht
    · exact (hfinish _).bind fun _ ht => .pure ht
  · exact .after fun _ => .pure trivial
  · exact .after fun _ => .pure trivial

private theorem radixNumber_plain {radix : Nat} : Yields (radixNumber radix) Token.IsPlain :=
  .after fun _ => .after fun _ => .after fun _ => .after fun _ =>
    .ite (.after fun _ => .pure nofun) (.after fun _ => .after fun _ => .pure nofun)

private theorem legacyOctalNumber_plain {before : Reader} :
    Yields (legacyOctalNumber before) Token.IsPlain :=
  .after fun _ => .ite (.after fun _ => .after fun _ => .after fun _ => .after fun _ => .pure nofun)
    (.after fun _ => .after fun _ => .after fun _ => .pure nofun)

private theorem fraction_plain {before : Reader} : Yields (fraction before) Token.IsPlain :=
  .after fun _ => .ite (.after fun _ => .after fun _ => .after fun _ => .after fun _ => .pure nofun)
    (.after fun _ => .after fun _ => .after fun _ => .pure nofun)

private theorem decimalNumber_plain : Yields decimalNumber Token.IsPlain := by
  refine .after fun before => .after fun c => .ite fraction_plain ?_
  refine .after fun _ => .after fun _ => .after fun _ => .after fun _ => .ite ?_ ?_
  · exact .after fun _ => .pure nofun
  · refine .ite (.ite fraction_plain legacyOctalNumber_plain) (.ite (.ite ?_ ?_) fraction_plain)
    · exact .after fun _ => .after fun _ => fraction_plain
    · exact legacyOctalNumber_plain

private theorem number_plain : Yields number Token.IsPlain := by
  refine .after fun _ => .after fun _ => ?_
  split
  · exact .ite radixNumber_plain (.ite radixNumber_plain (.ite radixNumber_plain decimalNumber_plain))
  · exact decimalNumber_plain

private theorem word_plain : Yields word Token.IsPlain := by
  refine .after fun _ => .after fun w => ?_
  exact .after fun _ => .ite (.after fun _ => .pure nofun) (.pure nofun)

private theorem quoted_plain : Yields quoted Token.IsPlain :=
  .after fun _ => .after fun _ => .after fun _ => .after fun _ => .after fun _ => .pure nofun

private theorem mark_plain {m : String} : Yields (mark m) Token.IsPlain :=
  .after fun _ => .pure nofun

/-- Outside of elements no text between elements is read. -/
private theorem plainToken_plain (n : Nat) : Yields (plainToken n) fun o => ∀ t ∈ o, t.IsPlain := by
  -- each kind of token is plain; the steps before it only ask what is ahead
  have hsome {step : Read Token} (h : Yields step Token.IsPlain) :
      Yields (do return some (← step)) fun o => ∀ t ∈ o, t.IsPlain :=
    h.bind fun t ht => .pure fun u hu => by cases hu; exact ht
  induction n with
  | zero => exact .pure nofun
  | succ n ih =>
    refine .after fun r => ?_
    split
    · exact .pure nofun
    · refine .ite (hsome word_plain) (.ite (hsome number_plain) (.ite (hsome quoted_plain) ?_))
      refine .after fun _ => .ite (hsome number_plain) (.ite (hsome mark_plain) ?_)
      refine .after fun _ => .ite (.after fun _ => .after fun _ => .after fun _ => ih) ?_
      refine .after fun _ => .ite (.after fun _ => .after fun _ => .after fun _ => ih) ?_
      refine .after fun _ => .ite (.after fun _ => ih) ?_
      refine .after fun _ => .after fun _ => .after fun _ => .ite (.after fun _ => .fail) ?_
      split
      · exact hsome mark_plain
      · exact .after fun _ => .fail

private theorem markToken_plain : Yields markToken fun o => ∀ t ∈ o, t.IsPlain :=
  .after fun _ => plainToken_plain _

private theorem elementText_kept (h : elementText r = .ok (some t) s) : t.IsPlain ∨ Kept r t := by
  obtain ⟨before, u, hbefore, h⟩ := bind_eq_ok_iff.1 h
  cases hbefore
  have hplain : Yields (do return .inr (← markToken))
      (Sum.elim (fun _ : List (List Char) => True) fun o => ∀ t ∈ o, t.IsPlain ∨ Kept r t) :=
    markToken_plain.bind fun o ho => .pure fun t ht => .inl (ho t ht)
  have htext (value : String) : Yields (do return .inr (some (.elementText value (← passedSince r))))
      (Sum.elim (fun _ : List (List Char) => True) fun o => ∀ t ∈ o, t.IsPlain ∨ Kept r t) := by
    have hraw : Yields (passedSince r) fun raw => Kept r (.elementText value raw) :=
      passedSince_yields fun _ => rfl
    refine hraw.bind fun raw hraw => .pure fun t ht => .inr ?_
    cases ht
    exact hraw
  refine Yields.loop (p := fun o => ∀ t ∈ o, t.IsPlain ∨ Kept r t) (fun _ => True) trivial
    (fun out _ => .after fun run => .after fun u => ?_) r _ s h t rfl
  -- what is ahead ends the text, or is a part of it that is taken over
  split
  · exact .after fun _ => .fail
  · exact .after fun _ => .pure trivial
  · exact .after fun _ => .after fun _ => .ite (.pure trivial) (.pure trivial)
  · exact .after fun _ => .after fun _ => .pure trivial
  · exact .after fun _ => .after fun _ => .pure trivial
  · refine .after fun _ => .ite (.after fun _ => hplain) (.ite (.ite ?_ hplain) ?_)
    · refine .after fun _ => .pure fun t ht => .inl ?_
      cases ht
      exact nofun
    · exact htext _

/-- **A literal is read** that keeps its characters. -/
inductive ReadsLiteral (r : Reader) (raw : String) : Prop
  | quoted {value : String} {s : Reader} (h : quoted r = .ok (.string value raw) s)
  | elementQuoted {quote : Char} {value : String} {s : Reader}
      (h : elementQuoted quote r = .ok (.string value raw) s)
  | templatePiece {cooked : Except Diagnostic String} {s : Reader}
      (h : templatePiece r = .ok (.template raw cooked) s)
  | elementText {value : String} {s : Reader}
      (h : elementText r = .ok (some (.elementText value raw)) s)

namespace ReadsLiteral

/-- A literal that is read stands ahead. -/
theorem isPrefix (h : ReadsLiteral r raw) : raw.toList <+: r.rest := by
  cases h with
  | quoted h => exact quoted_kept h raw rfl
  | elementQuoted h => exact elementQuoted_kept h raw rfl
  | templatePiece h => exact templatePiece_kept h raw rfl
  | elementText h =>
    obtain hplain | hkept := elementText_kept h
    · exact absurd rfl (hplain _ raw)
    · exact hkept raw rfl

/-- **A literal that is read from both texts** has no line behind its first one that is cut. -/
theorem not_breaks {r' : Reader} {u v : List Char} (hcut : r.Cut r') (h : ReadsLiteral r raw)
    (h' : ReadsLiteral r' raw) (hraw : raw.toList = u ++ '\n' :: v) : ¬ Breaks (firstLine v) := by
  have hprefix := h'.isPrefix
  rw [hcut.rest, hraw] at hprefix
  exact not_breaks_of_prefix (hraw ▸ h.isPrefix) hprefix

end ReadsLiteral

end Read

end EnvSchema.Script
