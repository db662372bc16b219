import EnvSchema.Proofs.Project.SchemaFile
import EnvSchema.Schema.Schema

/-!
# Modules that declare the object, and modules that mention it

Which file holds the schema is decided by texts, before any module is read: the first file that mentions
the object is taken. A module may mention it without declaring it, in a comment, in a string, in an import
or within a longer word. So the first module that declares the object is selected if and only if those
before it that mention the object declare it too, wherever the name is written out.

* `Node.boundWords`, `Module.declaredWords` — the words that a pattern binds, and those that a module
  declares;
* `Declares`, `WritesOut`, `Mentions` — what a module may do with the object;
* `schemaFile_eq_candidate_iff` — when a file is selected by its text;
* `schemaFile_firstDeclaring` — when the first module that declares the object is.
-/

namespace EnvSchema

open Files (Tree join)
open Script (Module Node Span)

namespace Script

namespace Node

/-- Whether a phrase is a pattern or a part of one that holds others. -/
def isPattern (n : Node) : Bool :=
  match n.form with
  | .binding .. | .arrayPattern .. | .objectPattern .. | .restPattern .. | .assignPattern ..
  | .keyValuePattern .. | .shorthandPattern .. => true
  | _ => false

/-- **The words that a pattern binds**, however deep they stand in it. Values that are taken where one is
missing belong to no pattern, and neither do types. -/
def boundWords (pattern : Node) : List Node :=
  (pattern.nodesWhere isPattern).flatMap fun n => match n.form with
    | .binding .. => [n]
    | .shorthandPattern key _ => [key]
    | _ => []

/-- The words that a phrase declares as variables. -/
def declaredWords (n : Node) : List Node :=
  match n.form with
  | .declarator pattern _ _ => pattern.boundWords
  | _ => []

end Node

namespace Module

/-- The words that are declared as variables anywhere in a module. -/
def declaredWords (m : Module) : List Node := m.nodes.flatMap Node.declaredWords

/-- The characters of a source file at a place. -/
def charsAt (source : String) (span : Span) : List Char :=
  ((withoutMark source.toList).drop (span.lo - firstPlace)).take (span.hi - span.lo)

/-- What stands at a place of a source file is a part of it. -/
theorem charsAt_isInfix (source : String) (span : Span) : charsAt source span <:+: source.toList := by
  have hmark : withoutMark source.toList <:+ source.toList := by
    unfold withoutMark
    split
    · next cs h => exact h ▸ List.suffix_cons _ cs
    · exact List.suffix_rfl
  exact ((List.take_prefix ..).isInfix.trans (List.drop_suffix ..).isInfix).trans hmark.isInfix

end Module

end Script

namespace Project

variable {t : Tree} {folder name object path : String} {names : List String} {settings : SchemaSettings}

/-! ### What modules do with the object -/

/-- A file is a module. -/
def IsModule (t : Tree) (path : String) : Prop :=
  ∃ text s, t.readText path = .ok text ∧ Schema.parse path text = .ok s

/-- **A module declares an object**: a declarator in it binds a variable of that name. -/
def Declares (t : Tree) (object path : String) : Prop :=
  ∃ text s, t.readText path = .ok text ∧ Schema.parse path text = .ok s ∧
    ∃ w ∈ s.module.declaredWords, w.name? = some object

/-- **A module writes out the name of an object where it declares it**, without escapes. -/
def WritesOut (t : Tree) (object path : String) : Prop :=
  ∃ text s, t.readText path = .ok text ∧ Schema.parse path text = .ok s ∧
    ∃ w ∈ s.module.declaredWords, w.name? = some object ∧ Module.charsAt text w.span = object.toList

/-- **A file mentions an object**, for whatever purpose. -/
def Mentions (t : Tree) (object path : String) : Prop :=
  ∃ text, t.readText path = .ok text ∧ object.toList <:+: text.toList

/-- A module that writes out the name of an object mentions it. -/
theorem WritesOut.mentions (h : WritesOut t object path) : Mentions t object path := by
  obtain ⟨text, -, hread, -, w, -, -, hchars⟩ := h
  exact ⟨text, hread, hchars ▸ Module.charsAt_isInfix text w.span⟩

/-- A file that can be read mentions an object or is passed over. -/
theorem passedOver_iff (object : String) (h : IsModule t path) :
    PassedOver t object path ↔ ¬ Mentions t object path := by
  obtain ⟨text, -, hread, -⟩ := h
  constructor
  · rintro ⟨text', hread', hnot⟩ ⟨text'', hread'', hmention⟩
    cases hread'.symm.trans hread''
    exact hnot hmention
  · intro hnot
    exact ⟨text, hread, fun hmention => hnot ⟨text, hread, hmention⟩⟩

/-- **The first of some modules that declare an object**, in the order of names. -/
structure IsFirstDeclaring (t : Tree) (folder object : String) (names : List String) (name : String) :
    Prop where
  mem : name ∈ names
  declares : Declares t object (join folder name)
  first : ∀ other ∈ names, Declares t object (join folder other) → name ≤ other

/-! ### The first module that declares the object -/

/-- Names lead to different files in a folder. -/
private theorem join_inj {a b : String} (ha : Files.isName a = true) (hb : Files.isName b = true)
    (h : join folder a = join folder b) : a = b := by
  have hrelative {name : String} (hname : Files.isName name = true) : Files.isAbsolute name = false :=
    Files.isAbsolute_eq_false (Files.isName_iff.1 hname).1.2
  unfold join at h
  rw [hrelative ha, hrelative hb, Bool.false_or] at h
  split at h
  · exact h
  · split at h
    · exact String.append_right_inj folder |>.1 h
    · exact String.append_right_inj (folder ++ "/") |>.1 h

/-- Names of files that may hold the schema are names. -/
private theorem IsCandidates.isName (ht : t.Named) (h : IsCandidates t folder names)
    (hname : name ∈ names) : Files.isName name = true := by
  obtain ⟨all, hall, hmem⟩ := h.listed
  exact ht.isName_of_mem_names hall ((hmem name).1 hname).1

/-- The names in front of another one are those that come first. -/
private theorem mem_before_iff {before after : List String} (h : (before ++ name :: after).Pairwise (· < ·))
    {other : String} (hother : other ∈ before ++ name :: after) : other ∈ before ↔ other < name := by
  obtain ⟨-, hafter, hbefore⟩ := List.pairwise_append.1 h
  refine ⟨fun hmem => hbefore other hmem name List.mem_cons_self, fun hlt => ?_⟩
  rcases List.mem_append.1 hother with hmem | hmem
  · exact hmem
  · rcases List.mem_cons.1 hmem with rfl | hmem
    · exact absurd hlt (String.lt_irrefl other)
    · have hgt : name < other := (List.pairwise_cons.1 hafter).1 other hmem
      exact absurd (String.lt_trans hlt hgt) (String.lt_irrefl other)

section

variable (ht : t.Named) (hfile : settings.file = none) (hnames : IsCandidates t folder names)
  (husual : "schema.mjs" ∉ names) (hmodules : ∀ other ∈ names, IsModule t (join folder other))
include ht hfile hnames husual hmodules

/-- **A file is selected by its text** if it is the first to mention the object, or the second one where
none does. -/
theorem schemaFile_eq_candidate_iff (hname : name ∈ names) :
    schemaFile t folder settings = .ok (join folder name) ↔
      Mentions t settings.object (join folder name) ∧
          (∀ other ∈ names, other < name → ¬ Mentions t settings.object (join folder other)) ∨
        (∀ other ∈ names, ¬ Mentions t settings.object (join folder other)) ∧
          names[1]? = some name := by
  have hsame {other : String} (hother : other ∈ names) (h : join folder name = join folder other) :
      name = other := join_inj (hnames.isName ht hname) (hnames.isName ht hother) h
  have hpassed {other : String} (hother : other ∈ names) :=
    passedOver_iff settings.object (hmodules other hother)
  rw [schemaFile_eq_iff]
  -- a rule tells which module is chosen; only two of the eight can choose one of these names here,
  -- the first that mentions the object and the second of the list; the others end differently
  constructor
  · intro h
    generalize hr : (Except.ok (join folder name) : Except Failure String) = r at h
    cases h with
    | named hfile' _ => rw [hfile] at hfile'; cases hfile'
    | missing | unlisted | unreadable | none => cases hr
    | usual _ hnames' husual' => exact absurd (hnames'.unique hnames ▸ husual') husual
    | mentioning _ hnames' _ hbefore hread hmention =>
      cases hnames'.unique hnames
      cases hsame (by simp) (Except.ok.inj hr)
      refine .inl ⟨⟨_, hread, hmention⟩, fun other hother hlt => (hpassed hother).1 ?_⟩
      exact hbefore other ((mem_before_iff hnames.ordered hother).2 hlt)
    | second _ hnames' _ hall h =>
      cases hnames'.unique hnames
      cases hsame (List.mem_of_getElem? h) (Except.ok.inj hr)
      exact .inr ⟨fun other hother => (hpassed hother).1 (hall other hother), h⟩
  · -- the names are in order, so "earlier in the list" and "smaller" are the same
    rintro (⟨⟨text, hread, hmention⟩, hfirst⟩ | ⟨hall, h⟩)
    · obtain ⟨before, after, rfl⟩ := List.append_of_mem hname
      refine .mentioning hfile hnames husual (fun other hother => ?_) hread hmention
      have hmem : other ∈ before ++ name :: after := List.mem_append_left _ hother
      exact (hpassed hmem).2 (hfirst other hmem ((mem_before_iff hnames.ordered hmem).1 hother))
    · exact .second hfile hnames husual (fun other hother => (hpassed hother).2 (hall other hother)) h

/-- **The first module that declares the object** is selected if and only if it mentions the object and
those before it that do so declare it too, or no module mentions it and this is the second one. Where the
module writes out the name that it declares, only those before it matter. -/
theorem schemaFile_firstDeclaring (h : IsFirstDeclaring t folder settings.object names name) :
    (schemaFile t folder settings = .ok (join folder name) ↔
      Mentions t settings.object (join folder name) ∧
          (∀ other ∈ names, other < name → Mentions t settings.object (join folder other) →
            Declares t settings.object (join folder other)) ∨
        (∀ other ∈ names, ¬ Mentions t settings.object (join folder other)) ∧
          names[1]? = some name) ∧
    (WritesOut t settings.object (join folder name) →
      (schemaFile t folder settings = .ok (join folder name) ↔
        ∀ other ∈ names, other < name → Mentions t settings.object (join folder other) →
          Declares t settings.object (join folder other))) := by
  -- a module before the first one that declares the object does not mention it, if only those do that
  -- declare it
  have hbefore : (∀ other ∈ names, other < name → ¬ Mentions t settings.object (join folder other)) ↔
      ∀ other ∈ names, other < name → Mentions t settings.object (join folder other) →
        Declares t settings.object (join folder other) := by
    refine forall_congr' fun other => forall_congr' fun hother => forall_congr' fun hlt => ?_
    have hnot : ¬ Declares t settings.object (join folder other) :=
      fun hdeclares => String.not_lt.2 (h.first other hother hdeclares) hlt
    exact ⟨fun hno hmention => absurd hmention hno, fun hall hmention => hnot (hall hmention)⟩
  have hiff := schemaFile_eq_candidate_iff ht hfile hnames husual hmodules h.mem
  rw [hbefore] at hiff
  refine ⟨hiff, fun hwritten => hiff.trans ⟨?_, fun hall => .inl ⟨hwritten.mentions, hall⟩⟩⟩
  rintro (⟨-, hall⟩ | ⟨hnone, -⟩)
  · exact hall
  · exact absurd hwritten.mentions (hnone name h.mem)

end

/-! ### A module behind another one -/

/-- A module that declares the server's object. -/
def declaringModule : String := "export const serverSchema = z.object(\x7b\x7d);"

/-- A folder with a module that declares the server's object, behind an empty one. -/
def emptyFirst : Tree :=
  (Tree.empty.withFile ["env", "a.mjs"] (.text "")).withFile ["env", "b.mjs"] (.text declaringModule)

/-- A folder with a module that declares the server's object, behind one with the given text. -/
def behind (text : String) : Tree := emptyFirst.put ["env", "a.mjs"] (.file (.text text))

private theorem get?_emptyFirst : emptyFirst.get? ["env", "a.mjs"] = some (.file (.text "")) := by
  decide +kernel

private theorem sameShape_behind (text : String) : emptyFirst.SameShape (behind text) :=
  .put get?_emptyFirst _

private theorem named_behind (text : String) : (behind text).Named := by
  have hempty : ∀ way ∈ emptyFirst.entries.map (·.1), ∀ name ∈ way, Files.isName name = true := by
    decide +kernel
  rw [← (sameShape_behind text).ways] at hempty
  exact fun e he => hempty e.1 (List.mem_map_of_mem he)

private theorem isCandidates_behind (text : String) :
    IsCandidates (behind text) "/env" ["a.mjs", "b.mjs"] := by
  rw [← candidates_eq_ok_iff, candidates_eq_of_sameShape (sameShape_behind text), candidates_eq_ok_iff]
  have hall : ∀ name ∈ ["a.mjs", "b.mjs"], emptyFirst.isFile (join "/env" name) = true ∧
      Files.extension? name = some "mjs" := by decide +kernel
  exact ⟨by decide +kernel, ["a.mjs", "b.mjs"], by rfl,
    fun name => ⟨fun h => ⟨h, hall name h⟩, fun h => h.1⟩⟩

private theorem readText_behind_first (text : String) :
    (behind text).readText (join "/env" "a.mjs") = .ok text := by
  refine Tree.readText_eq_ok_iff.2 ⟨["env", "a.mjs"], ?_, Tree.get?_put (by decide)⟩
  exact (Tree.way_put get?_emptyFirst).trans (by decide +kernel)

private theorem readText_behind_second (text : String) :
    (behind text).readText (join "/env" "b.mjs") = .ok declaringModule := by
  refine Tree.readText_eq_ok_iff.2 ⟨["env", "b.mjs"], ?_, ?_⟩
  · exact (Tree.way_put get?_emptyFirst).trans (by decide +kernel)
  · exact (Tree.get?_put_of_ne (by decide)).trans (by decide +kernel)

set_option maxRecDepth 20000 in
private theorem writesOut_behind (text : String) :
    WritesOut (behind text) "serverSchema" (join "/env" "b.mjs") := by
  have hrun : (Schema.parse (join "/env" "b.mjs") declaringModule).toOption.any (fun s =>
      s.module.declaredWords.any fun w => w.name? == some "serverSchema" &&
        Module.charsAt declaringModule w.span == "serverSchema".toList) = true := by decide +kernel
  obtain ⟨s, hs, hwords⟩ := exists_ok_of_any hrun
  obtain ⟨w, hw, hword⟩ := List.any_eq_true.1 hwords
  rw [Bool.and_eq_true, beq_iff_eq, beq_iff_eq] at hword
  exact ⟨_, s, readText_behind_second text, hs, w, hw, hword⟩

variable {text : String}

/-- **The module behind is the first one that declares the object**, if the one before it is a module that
does not. -/
private theorem isFirstDeclaring_behind {s : Schema} (hs : Schema.parse (join "/env" "a.mjs") text = .ok s)
    (hnot : ∀ w ∈ s.module.declaredWords, w.name? ≠ some "serverSchema") :
    (∀ other ∈ ["a.mjs", "b.mjs"], IsModule (behind text) (join "/env" other)) ∧
      IsFirstDeclaring (behind text) "/env" "serverSchema" ["a.mjs", "b.mjs"] "b.mjs" := by
  obtain ⟨text', s', hread, hs', w, hw, hword, -⟩ := writesOut_behind text
  refine ⟨?_, by simp, ⟨text', s', hread, hs', w, hw, hword⟩, ?_⟩
  · simp only [List.forall_mem_cons]
    exact ⟨⟨text, s, readText_behind_first text, hs⟩, ⟨text', s', hread, hs'⟩, by simp⟩
  · simp only [List.forall_mem_cons]
    refine ⟨?_, fun _ => String.le_refl _, by simp⟩
    -- the first module has one text and one reading of it, and no word of that reading is the object
    rintro ⟨text'', s'', hread', hs'', w', hw', hword'⟩
    cases hread'.symm.trans (readText_behind_first text)
    cases hs''.symm.trans hs
    exact absurd hword' (hnot w' hw')

set_option maxRecDepth 20000 in
/-- **A comment is enough.** A file that mentions the object in a comment is selected, although it declares
nothing and the module behind it declares the object. -/
theorem comment_selected :
    IsCandidates (behind "// serverSchema") "/env" ["a.mjs", "b.mjs"] ∧
      (∀ other ∈ ["a.mjs", "b.mjs"], IsModule (behind "// serverSchema") (join "/env" other)) ∧
      IsFirstDeclaring (behind "// serverSchema") "/env" "serverSchema" ["a.mjs", "b.mjs"] "b.mjs" ∧
      schemaFile (behind "// serverSchema") "/env" {} = .ok (join "/env" "a.mjs") ∧
      join "/env" "a.mjs" ≠ join "/env" "b.mjs" := by
  have hrun : (Schema.parse (join "/env" "a.mjs") "// serverSchema").toOption.any (fun s =>
      s.module.declaredWords.isEmpty) = true := by decide +kernel
  obtain ⟨s, hs, hnone⟩ := exists_ok_of_any hrun
  rw [List.isEmpty_iff] at hnone
  obtain ⟨hmodules, hfirst⟩ := isFirstDeclaring_behind hs (by simp [hnone])
  have hnames : IsCandidates (behind "// serverSchema") "/env" ([] ++ "a.mjs" :: ["b.mjs"]) :=
    isCandidates_behind "// serverSchema"
  have hmention : "serverSchema".toList <:+: "// serverSchema".toList := by decide +kernel
  have hselects : Selects (behind "// serverSchema") "/env" {} (.ok (join "/env" "a.mjs")) :=
    .mentioning rfl hnames (by decide) (by simp) (readText_behind_first _) hmention
  exact ⟨hnames, hmodules, hfirst, hselects.eq, by decide +kernel⟩

set_option maxRecDepth 20000 in
/-- A module that declares the object is selected behind one that does not mention it. -/
theorem schemaFile_firstDeclaring_other :
    schemaFile (behind "export const other = 1;") "/env" {} = .ok (join "/env" "b.mjs") := by
  have hrun : (Schema.parse (join "/env" "a.mjs") "export const other = 1;").toOption.any (fun s =>
      s.module.declaredWords.all fun w => w.name? != some "serverSchema") = true := by decide +kernel
  obtain ⟨s, hs, hnot⟩ := exists_ok_of_any hrun
  rw [List.all_eq_true] at hnot
  obtain ⟨hmodules, hfirst⟩ := isFirstDeclaring_behind hs fun w hw => bne_iff_ne.1 (hnot w hw)
  have hfile : ({} : SchemaSettings).file = none := rfl
  have hdecided := schemaFile_firstDeclaring (named_behind _) hfile (isCandidates_behind _) (by decide)
    hmodules hfirst
  -- the only name in front of the chosen one is that of the first module, which does not mention the object
  refine (hdecided.2 (writesOut_behind _)).2 fun other hother hlt hmention => ?_
  obtain ⟨text, hread, hinfix⟩ := hmention
  have ha : other = "a.mjs" := by
    simp only [List.mem_cons, List.not_mem_nil, or_false] at hother
    rcases hother with rfl | rfl
    · rfl
    · exact absurd hlt (String.lt_irrefl _)
  subst ha
  cases hread.symm.trans (readText_behind_first _)
  exact absurd hinfix (by decide +kernel)

end Project

end EnvSchema
