import EnvSchema.Proofs.Script.Literals
import EnvSchema.Proofs.Script.Refill

/-!
# Reading what has been printed

A module is printed as the text on its page with some lines cut. That the text on the page is read as
the module again is taken for granted here; the question is what is read once lines of it have been
cut.

* `Node.bare`, `Module.SameTree` — trees without their places, and modules with the same tree;
* `Module.SameTree.literals` — modules with the same tree have the same literals;
* `Module.SamePlace` — a reader in the text on the page and one in the printed text at the same place;
* `Module.PrintsBack` — what is read from the printed text;
* `Module.print_reads_back` — all of this holds of a module whose page is read as the module;
* `Module.print_spoils_template` — a template that is another one after the module has been printed.

A cut behind a comment is not seen, for between the tokens around the comment a line ends already. A
cut within a literal changes it: nothing is asked about the characters before the end of the comment
but whether they are blank.
-/

namespace EnvSchema.Script

/-! ### The same tree -/

namespace Node

/-- **A phrase without its places.** -/
def bare (n : Node) : Node := .mk .none (n.form.refill (n.parts.attach.map fun ⟨p, _⟩ => p.bare))
termination_by sizeOf n
decreasing_by exact sizeOf_lt_of_mem_parts (by assumption)

theorem bare_eq (n : Node) : n.bare = .mk .none (n.form.refill (n.parts.map bare)) := by
  rw [bare]
  conv => rhs; rw [← List.attach_map_subtype_val n.parts, List.map_map]
  rfl

theorem parts_bare (n : Node) : n.bare.parts = n.parts.map bare := by
  rw [bare_eq]
  exact Form.parts_refill (List.length_map _)

/-- A walk without places visits what the walk does. -/
theorem nodes_bare (n : Node) : n.bare.nodes = n.nodes.map bare := by
  rw [nodes_eq, nodes_eq n, parts_bare, List.map_cons, List.flatMap_map, List.map_flatMap,
    List.flatMap_def, List.flatMap_def]
  congr 2
  exact List.map_congr_left fun p hp => nodes_bare p
termination_by sizeOf n
decreasing_by exact sizeOf_lt_of_mem_parts (by assumption)

/-- The text of a literal, as it is written. -/
def literalText? (n : Node) : Option String :=
  match n.form with
  | .string _ raw => some raw
  | .templatePiece raw _ _ => some raw
  | .elementText _ raw => some raw
  | _ => none

/-- A refilled form has the text as a literal that it had. -/
theorem literalText?_refill {f : Form Node} {ps : List Node} {s t : Span} :
    (Node.mk s (f.refill ps)).literalText? = (Node.mk t f).literalText? := by
  cases f <;> rfl

theorem literalText?_bare (n : Node) : n.bare.literalText? = n.literalText? := by
  rw [bare_eq, literalText?_refill (t := n.span)]
  rfl

end Node

namespace Module

/-- The literals of a module, as they are written. -/
def literals (m : Module) : List String := m.nodes.filterMap Node.literalText?

/-- **Two modules have the same tree**: they are the same but for places and comments. -/
structure SameTree (m m' : Module) : Prop where
  dialect : m.dialect = m'.dialect
  hashbang : m.hashbang = m'.hashbang
  items : m.items.map Node.bare = m'.items.map Node.bare

theorem SameTree.refl (m : Module) : m.SameTree m := ⟨rfl, rfl, rfl⟩

/-- **Modules with the same tree have the same literals.** -/
theorem SameTree.literals {m m' : Module} (h : m.SameTree m') : m.literals = m'.literals := by
  have hbare (m : Module) : m.literals =
      ((m.items.map Node.bare).flatMap Node.nodes).filterMap Node.literalText? := by
    unfold Module.literals Module.nodes
    rw [List.flatMap_map, List.filterMap_flatMap, List.filterMap_flatMap]
    congr 1
    funext n
    rw [Node.nodes_bare, List.filterMap_map]
    congr 1
    funext p
    exact (Node.literalText?_bare p).symm
  rw [hbare m, hbare m', h.items]

/-- The dialect of a module is the one that it was read in. -/
theorem dialect_of_parse {dialect : Dialect} {source : String} {m : Module}
    (h : Module.parse dialect source = .ok m) : m.dialect = dialect := by
  unfold Module.parse at h
  dsimp only at h
  split at h
  · exact nomatch h
  · split at h
    · exact nomatch h
    · cases h
      rfl

/-! ### The same place in both texts -/

/-- The printed text is the text on the page with its lines cut. -/
theorem toList_print (m : Module) : m.print.1.toList = cutLines m.emitted.toList := by
  rw [print_fst, breakAfterComments, String.toList_ofList]
  rfl

/-- **Two readers at the same place**, one in the text on the page and one in the printed text. -/
structure SamePlace (m : Module) (r r' : Reader) : Prop where
  page : r.rest <:+ m.emitted.toList
  printed : r'.rest <:+ m.print.1.toList
  cut : r.Cut r'

/-- Behind a settled place of the page a reader of the printed text stands at the same place. -/
private theorem samePlace_of_settled {m : Module} {before : List Char} {r r' : Reader}
    (hpage : m.emitted.toList = before ++ r.rest) (hsettled : Settled before) (hcut : r.Cut r') :
    m.SamePlace r r' := by
  obtain ⟨w, hw⟩ : ∃ w, cutLines (before ++ r.rest) = w ++ cutAhead r.rest :=
    exists_cutAhead_of_settled hsettled
  refine ⟨⟨before, hpage.symm⟩, ⟨w, ?_⟩, hcut⟩
  rw [toList_print, hpage, hw, hcut.rest]

/-- Behind a gap both readers are at the same place again. -/
private theorem SamePlace.gap {m : Module} {gap : List Char} {r r' s : Reader} (h : m.SamePlace r r')
    (hrun : Read.skipBlanks r = .ok () s) (hgap : r.rest = gap ++ s.rest) (hblank : '\u0085' ∉ gap)
    (hmark : ¬ AtMark s.rest) : ∃ s', Read.skipBlanks r' = .ok () s' ∧ m.SamePlace s s' := by
  obtain ⟨s', hrun', hcut⟩ := Read.skipBlanks_cut h.cut hrun hgap hblank hmark
  obtain ⟨gap', hgap'⟩ := Read.exists_gap hrun'
  exact ⟨s', hrun', (List.IsSuffix.trans ⟨gap, hgap.symm⟩ h.page),
    (List.IsSuffix.trans ⟨gap', hgap'.symm⟩ h.printed), hcut⟩

/-! ### What is read -/

/-- **What is read from the printed text of a module.** -/
structure PrintsBack (m : Module) : Prop where
  /-- The text on the page is printed as it is just if none of its lines is cut. -/
  unchanged : m.print.1 = m.emitted ↔ ∀ line ∈ Text.linesWithEnds m.emitted.toList, ¬ Breaks line
  /-- Then the module is read again. -/
  reads : (∀ line ∈ Text.linesWithEnds m.emitted.toList, ¬ Breaks line) →
    ∃ n, Module.parse m.dialect m.print.1 = .ok n ∧ n.SameTree m
  /-- The printed text has every place of the page behind which a line goes on. -/
  place : ∀ {before r r'}, m.emitted.toList = before ++ r.rest → Settled before → r.Cut r' →
    m.SamePlace r r'
  /-- What stands between two tokens is passed over to the same place, whether lines of it are cut or
  not. -/
  gap : ∀ {gap r r' s}, m.SamePlace r r' → Read.skipBlanks r = .ok () s → r.rest = gap ++ s.rest →
    '\u0085' ∉ gap → ¬ AtMark s.rest → ∃ s', Read.skipBlanks r' = .ok () s' ∧ m.SamePlace s s'
  /-- A literal is another one if a line of it is cut. -/
  literal : ∀ {raw r r' u v}, m.SamePlace r r' → raw.toList = u ++ '\n' :: v → Breaks (firstLine v) →
    Read.ReadsLiteral r raw → ¬ Read.ReadsLiteral r' raw

/-- **What has been printed is read again**, if the text on the page is: as the same tree if no line
is cut, and otherwise up to the first literal of which a line is. -/
theorem print_reads_back {m m' : Module} (hparse : Module.parse m.dialect m.emitted = .ok m')
    (hsame : m'.SameTree m) : m.PrintsBack where
  unchanged := by
    rw [print_fst]
    exact breakAfterComments_eq_self_iff
  reads := by
    intro hlines
    have hprint : m.print.1 = m.emitted := by
      rw [print_fst]
      exact breakAfterComments_eq_self_iff.2 hlines
    rw [hprint]
    exact ⟨m', hparse, hsame⟩
  place := samePlace_of_settled
  gap := SamePlace.gap
  literal := by
    intro raw r r' u v hplace hraw hbreaks hpage hprinted
    exact hpage.not_breaks hplace.cut hprinted hraw hbreaks

/-- A module with a template over two lines, of which none is cut. -/
def twoLines : String := "const a = `\nb`;\n"

set_option maxRecDepth 20000 in
/-- It is read from what has been printed. -/
theorem prints_back_twoLines :
    ∃ m, Module.parse .module twoLines = .ok m ∧ m.emitted = twoLines ∧ m.PrintsBack := by
  have hrun : (match Module.parse .module twoLines with
      | .ok m => m.emitted == twoLines
      | .error _ => false : Bool) = true := by decide +kernel
  split at hrun
  · next m hm =>
    have hemitted : m.emitted = twoLines := beq_iff_eq.1 hrun
    have hparse : Module.parse m.dialect m.emitted = .ok m := by
      rw [hemitted, dialect_of_parse hm]
      exact hm
    exact ⟨m, hm, hemitted, print_reads_back hparse (.refl m)⟩
  · exact nomatch hrun

/-- A module with a template whose second line starts as if a comment ended there. -/
def falseEnd : String := "const a = `\n*/ x`;\n"

set_option maxRecDepth 20000 in
/-- **Printing spoils a template**: its page is the text that it was read from, but another template
is read from what has been printed. -/
theorem print_spoils_template :
    ∃ m n, Module.parse .module falseEnd = .ok m ∧ m.emitted = falseEnd ∧
      m.print.1 = "const a = `\n*/\nx`;\n" ∧ Module.parse .module m.print.1 = .ok n ∧
      ¬ n.SameTree m := by
  have hrun : (match Module.parse .module falseEnd with
      | .ok m =>
        match Module.parse .module m.print.1 with
        | .ok n => m.emitted == falseEnd && m.print.1 == "const a = `\n*/\nx`;\n" &&
          m.literals != n.literals
        | .error _ => false
      | .error _ => false : Bool) = true := by decide +kernel
  -- the test holds in one branch only: both texts are modules
  split at hrun
  · next m hm =>
    split at hrun
    · next n hn =>
      simp only [Bool.and_eq_true, beq_iff_eq, bne_iff_ne] at hrun
      exact ⟨m, n, hm, hrun.1.1, hrun.1.2, hn, fun hsame => hrun.2 hsame.literals.symm⟩
    · exact nomatch hrun
  · exact nomatch hrun

end Module

end EnvSchema.Script
