import EnvSchema.Project.Environment
import EnvSchema.Proofs.Files.Way
import EnvSchema.Proofs.Text.Blank

/-!
# Files that set variables

A file with variables is written line by line: a line is blank, or a comment, or sets a variable, behind
a word that exports it or not. What such a line sets is told by the line alone, whatever the value holds,
so the variables of a text are those of its lines.

* `Line`, `Assignments` — the lines, and the texts that are made of them;
* `setBy?_chars` — what a line sets;
* `setIn_text` — what a text sets;
* `environment_of_files` — what the files of a project set.
-/

namespace EnvSchema.Project

open Files (Tree join)
open Text (isBlank trim trimStart trimEnd linesWithEnds)

/-! ### Lines -/

/-- Blanks that end no line. -/
structure Blanks where
  chars : List Char
  allBlank : chars.all isBlank = true := by decide +kernel
  oneLine : '\n' ∉ chars := by decide +kernel

/-- No blanks. -/
def Blanks.empty : Blanks where
  chars := []

/-- Whatever stands within a line. -/
structure Remainder where
  chars : List Char
  oneLine : '\n' ∉ chars := by decide +kernel

/-- **A name that a line can give a variable.** -/
structure VariableName where
  chars : List Char
  ne_nil : chars ≠ [] := by decide +kernel
  allSolid : (chars.all fun c => !isBlank c && c != '=') = true := by decide +kernel
  head_ne : chars.head? ≠ some '#' := by decide +kernel
  ne_export : chars ≠ "export".toList := by decide +kernel

theorem Blanks.blank (space : Blanks) : ∀ c ∈ space.chars, isBlank c = true :=
  List.all_eq_true.1 space.allBlank

theorem VariableName.solid (name : VariableName) : ∀ c ∈ name.chars, isBlank c = false ∧ c ≠ '=' := by
  intro c hc
  simpa using List.all_eq_true.1 name.allSolid c hc

/-- **A line of a file with variables.** -/
inductive Line where
  | blank (space : Blanks)
  | comment (space : Blanks) (text : Remainder)
  /-- A line that sets a variable. If the line exports it, blanks may stand behind that word too. -/
  | assignment (space : Blanks) (exported : Option Blanks) (name : VariableName) (gap : Blanks)
    (value : Remainder)

namespace Line

/-- The word that exports a variable, with the blanks behind it. -/
def exporting : Option Blanks → List Char
  | none => []
  | some space => "export ".toList ++ space.chars

/-- The characters of the word that exports a variable. -/
private theorem export_eq : "export ".toList = ['e', 'x', 'p', 'o', 'r', 't', ' '] := by decide +kernel

private theorem exporting_some (space : Blanks) :
    exporting (some space) = ['e', 'x', 'p', 'o', 'r', 't', ' '] ++ space.chars := by
  unfold exporting
  rfl

/-- How a line is written. -/
def chars : Line → List Char
  | blank space => space.chars
  | comment space text => space.chars ++ '#' :: text.chars
  | assignment space exported name gap value =>
    space.chars ++ (exporting exported ++ (name.chars ++ (gap.chars ++ '=' :: value.chars)))

/-- The name of the variable that a line sets. -/
def name? : Line → Option String
  | assignment _ _ name _ _ => some (String.ofList name.chars)
  | _ => none

end Line

/-- What ends a line. -/
inductive Ending where
  | feed
  | returnFeed

/-- How the end of a line is written. -/
def Ending.chars : Ending → List Char
  | feed => ['\n']
  | returnFeed => ['\r', '\n']

/-- **What a file with variables holds**: lines with their ends, and perhaps one more without. -/
structure Assignments where
  ended : List (Line × Ending)
  last : Option Line

namespace Assignments

/-- The text of a file with variables. -/
def text (a : Assignments) : String :=
  String.ofList (a.ended.flatMap (fun l => l.1.chars ++ l.2.chars) ++ (a.last.elim [] Line.chars))

/-- The names that the lines of a file give variables. -/
def names (a : Assignments) : List String := (a.ended.map (·.1) ++ a.last.toList).filterMap Line.name?

end Assignments

/-! ### What a line sets -/

/-- A name is not empty. -/
private theorem VariableName.exists_cons (name : VariableName) :
    ∃ c cs, name.chars = c :: cs ∧ isBlank c = false ∧ c ≠ '#' := by
  obtain ⟨c, cs, hcs⟩ := List.exists_cons_of_ne_nil name.ne_nil
  refine ⟨c, cs, hcs, (name.solid c (by simp [hcs])).1, fun hhash => name.head_ne ?_⟩
  rw [hcs, hhash]
  rfl

/-- **The name before the first equals sign**, without the blanks around it. -/
private theorem trim_takeWhile (space gap : Blanks) (name : VariableName) (value : List Char) :
    trim ((space.chars ++ (name.chars ++ (gap.chars ++ '=' :: value))).takeWhile (· != '=')) =
      name.chars := by
  have hne {cs : List Char} (h : ∀ c ∈ cs, isBlank c = true) : ∀ c ∈ cs, (c != '=') = true := by
    intro c hc
    refine bne_iff_ne.2 ?_
    rintro rfl
    exact absurd (h _ hc) (by decide +kernel)
  rw [List.takeWhile_append_of_pos (hne space.blank),
    List.takeWhile_append_of_pos fun c hc => bne_iff_ne.2 (name.solid c hc).2,
    List.takeWhile_append_of_pos (hne gap.blank), List.takeWhile_cons, if_neg (by simp),
    List.append_nil, ← List.append_assoc]
  exact Text.trim_append space.blank gap.blank fun c hc => (name.solid c hc).1

/-- **A line that exports nothing does not start with the word for it**, since the name that it starts
with is another word. -/
private theorem not_isPrefixOf (name : VariableName) (gap : Blanks) (value : List Char) :
    "export ".toList.isPrefixOf (name.chars ++ (gap.chars ++ '=' :: value)) = false := by
  refine Bool.eq_false_iff.2 fun hprefix => name.ne_export ?_
  obtain ⟨behind, hline⟩ := List.isPrefixOf_iff_prefix.1 hprefix
  -- the first word of the line, up to a blank or an equals sign
  let inWord : Char → Bool := fun c => !isBlank c && c != '='
  have hname : (name.chars ++ (gap.chars ++ '=' :: value)).takeWhile inWord = name.chars := by
    rw [List.takeWhile_append_of_pos fun c hc => by simpa [inWord] using name.solid c hc]
    cases hgap : gap.chars with
    | nil => simp [inWord]
    | cons c cs =>
      have hc : isBlank c = true := gap.blank c (by simp [hgap])
      simp [inWord, hc]
  have hword : ("export ".toList ++ behind).takeWhile inWord = "export".toList := by
    have hsplit : "export ".toList ++ behind = "export".toList ++ ' ' :: behind := rfl
    rw [hsplit, List.takeWhile_append_of_pos (List.all_eq_true.1 (by decide +kernel)), List.takeWhile_cons,
      if_neg (by decide +kernel), List.append_nil]
  rw [← hname, ← hline, hword]

/-- **A line sets the variable that is named** behind the word that exports it, if there is one. -/
private theorem setBy?_of_trim_eq {line start : List Char} (space : Blanks) (name : VariableName)
    (gap : Blanks) (value : List Char) (htrim : trim line = start) (hcomment : start.head? ≠ some '#')
    (hword : (if "export ".toList.isPrefixOf start then start.drop "export ".toList.length else start) =
      space.chars ++ (name.chars ++ (gap.chars ++ '=' :: value))) :
    setBy? line = some (String.ofList name.chars) := by
  have hcontains : (space.chars ++ (name.chars ++ (gap.chars ++ '=' :: value))).contains '=' = true := by
    simp
  have hname : ¬ name.chars.isEmpty = true := by simpa using name.ne_nil
  -- the line is no comment, and what is left of it has an equals sign behind the name
  rw [setBy?, htrim]
  dsimp only
  rw [if_neg (by simpa using hcomment), hword, if_pos hcontains, trim_takeWhile, if_neg hname]

/-- Without the blanks around it, a line starts with what stands before the name, or with the name. -/
private theorem trim_assignment (space : Blanks) (name : VariableName) (gap : Blanks)
    (value : Remainder) (before : List Char)
    (h : ∃ d ds, before ++ name.chars = d :: ds ∧ isBlank d = false) :
    trim (space.chars ++ (before ++ (name.chars ++ (gap.chars ++ '=' :: value.chars)))) =
      before ++ (name.chars ++ (gap.chars ++ '=' :: trimEnd value.chars)) := by
  obtain ⟨d, ds, hline, hd⟩ := h
  calc trim (space.chars ++ (before ++ (name.chars ++ (gap.chars ++ '=' :: value.chars))))
    _ = trimEnd (d :: ds ++ (gap.chars ++ '=' :: value.chars)) := by
      rw [trim, Text.trimStart_append space.blank, ← List.append_assoc before, hline,
        List.cons_append, Text.trimStart_cons hd]
    _ = d :: ds ++ (gap.chars ++ '=' :: trimEnd value.chars) := by
      rw [← List.append_assoc, Text.trimEnd_append_cons (by decide +kernel), List.append_assoc]
    _ = before ++ (name.chars ++ (gap.chars ++ '=' :: trimEnd value.chars)) := by
      rw [← hline, List.append_assoc]

/-- **What a line sets.** -/
theorem setBy?_chars (line : Line) : setBy? line.chars = line.name? := by
  cases line with
  | blank space =>
    have hnil : trim space.chars = trim [] := by
      rw [← Text.trim_append_right (u := []) space.blank, List.nil_append]
    rw [Line.chars, setBy?, hnil]
    rfl
  | comment space text =>
    have hhash : isBlank '#' = false := by decide +kernel
    have htrim : trim (space.chars ++ '#' :: text.chars) = '#' :: trimEnd text.chars := by
      rw [trim, Text.trimStart_append space.blank, Text.trimStart_cons hhash]
      exact Text.trimEnd_append_cons (u := []) hhash
    rw [Line.chars, setBy?, htrim]
    rfl
  | assignment space exported name gap value =>
    obtain ⟨c, cs, hname, hblank, hhash⟩ := name.exists_cons
    cases exported with
    | none =>
      have hstart := trim_assignment space name gap value [] ⟨c, cs, hname, hblank⟩
      refine setBy?_of_trim_eq .empty name gap (trimEnd value.chars) hstart ?_ ?_
      · rw [hname]
        simpa using hhash
      · rw [List.nil_append, not_isPrefixOf]
        rfl
    | some behind =>
      rw [Line.chars, Line.exporting_some]
      have hstart := trim_assignment space name gap value
        (['e', 'x', 'p', 'o', 'r', 't', ' '] ++ behind.chars) ⟨'e', _, rfl, by decide +kernel⟩
      refine setBy?_of_trim_eq behind name gap (trimEnd value.chars) hstart (by simp) ?_
      rw [Line.export_eq, List.append_assoc,
        if_pos (List.isPrefixOf_iff_prefix.2 (List.prefix_append ..)), List.drop_left]

/-! ### What a text sets -/

/-- **What ends a line** does not matter to what the line sets. -/
theorem setBy?_withoutEnd (line : List Char) : setBy? (Text.withoutEnd line) = setBy? line := by
  unfold setBy?
  rw [Text.trim_withoutEnd]

/-- What a line sets, whatever ends it. -/
private theorem setBy?_append (line : Line) (ending : Ending) :
    setBy? (line.chars ++ ending.chars) = line.name? := by
  have hblank : ∀ c ∈ ending.chars, isBlank c = true :=
    List.all_eq_true.1 (by cases ending <;> decide +kernel)
  rw [← setBy?_chars]
  unfold setBy?
  rw [Text.trim_append_right hblank]

/-- A line is written without a line feed. -/
private theorem Line.oneLine (line : Line) : '\n' ∉ line.chars := by
  cases line with
  | blank space => exact space.oneLine
  | comment space text => simp [chars, space.oneLine, text.oneLine]
  | assignment space exported name gap value =>
    have hname : '\n' ∉ name.chars := fun h => absurd (name.solid _ h).1 (by decide +kernel)
    have hexporting : '\n' ∉ exporting exported := by
      cases exported with
      | none => exact List.not_mem_nil
      | some behind =>
        rw [exporting_some]
        simp [behind.oneLine]
    simp [chars, space.oneLine, hexporting, hname, gap.oneLine, value.oneLine]

/-- What is set in a line behind which nothing stands: the line may be empty, and is none then. -/
private theorem filterMap_last (last : Option Line) :
    (linesWithEnds (last.elim [] Line.chars)).filterMap setBy? = last.toList.filterMap Line.name? := by
  cases last with
  | none => rfl
  | some line =>
    have hset : (linesWithEnds line.chars).filterMap setBy? = (setBy? line.chars).toList := by
      -- an empty line at the end of the file is no line at all, and it sets nothing
      cases hline : line.chars with
      | nil => rfl
      | cons c cs =>
        rw [Text.linesWithEnds_of_not_mem (hline ▸ line.oneLine) (List.cons_ne_nil c cs)]
        rw [List.filterMap_cons, List.filterMap_nil]
        cases setBy? (c :: cs) <;> rfl
    rw [Option.elim_some, hset, setBy?_chars, Option.toList_some, List.filterMap_cons,
      List.filterMap_nil]
    cases line.name? <;> rfl

/-- **What a text sets** is what its lines do. -/
theorem setIn_text (a : Assignments) : setIn a.text = a.names := by
  have hend (l : Line × Ending) : linesWithEnds (l.1.chars ++ l.2.chars) = [l.1.chars ++ l.2.chars] :=
    (Text.linesWithEnds_append_eq_singleton_iff l.1.oneLine (by cases l.2 <;> decide +kernel)).2
      (by cases l.2 <;> rfl)
  have hlast : ∀ l : Line × Ending, (l.1.chars ++ l.2.chars).getLast? = some '\n' := by
    rintro ⟨line, _ | _⟩ <;> simp [Ending.chars]
  -- lines that are ended are cut where they end, and the last one is whatever is left
  have hended : linesWithEnds (a.ended.flatMap fun l => l.1.chars ++ l.2.chars) =
      a.ended.map fun l => l.1.chars ++ l.2.chars := by
    rw [Text.linesWithEnds_flatMap fun l _ => hlast l]
    simp only [hend]
    exact List.map_eq_flatMap.symm
  have hbreak : ∀ c ∈ (a.ended.flatMap fun l => l.1.chars ++ l.2.chars).getLast?, c = '\n' := by
    intro c hc
    obtain hnil | ⟨front, l, hl⟩ := List.eq_nil_or_concat' a.ended
    · rw [hnil] at hc
      cases hc
    · rw [hl, List.flatMap_append, List.flatMap_singleton,
        List.getLast?_append_of_ne_nil _ (by cases l.2 <;> simp [Ending.chars]), hlast] at hc
      exact (Option.some.inj hc).symm
  have hset : setBy? ∘ Text.withoutEnd = setBy? := funext setBy?_withoutEnd
  have hline : (setBy? ∘ fun l : Line × Ending => l.1.chars ++ l.2.chars) = Line.name? ∘ (·.1) :=
    funext fun l => setBy?_append l.1 l.2
  calc setIn a.text
    _ = (linesWithEnds ((a.ended.flatMap fun l => l.1.chars ++ l.2.chars) ++
          a.last.elim [] Line.chars)).filterMap setBy? := by
      rw [setIn, Assignments.text, String.toList_ofList, Text.lines, List.filterMap_map, hset]
    _ = (a.ended.map fun l => l.1.chars ++ l.2.chars).filterMap setBy? ++
          (linesWithEnds (a.last.elim [] Line.chars)).filterMap setBy? := by
      rw [Text.linesWithEnds_append hbreak, hended, List.filterMap_append]
    _ = a.ended.filterMap (Line.name? ∘ (·.1)) ++ a.last.toList.filterMap Line.name? := by
      rw [List.filterMap_map, hline, filterMap_last]
    _ = a.names := by
      rw [Assignments.names, List.filterMap_append, List.filterMap_map]

/-! ### What the files of a project set -/

variable {t : Tree} {path root : String}

/-- A file that is not there sets nothing. -/
theorem variablesOf_of_not_exists (h : t.exists? path = false) : variablesOf t path = .ok [] :=
  if_neg (by simp [h])

/-- A file that is there sets what its lines do. -/
theorem variablesOf_of_readText {a : Assignments} (h : t.readText path = .ok a.text) :
    variablesOf t path = .ok a.names := by
  obtain ⟨w, hw, -⟩ := Tree.readText_eq_ok_iff.1 h
  rw [variablesOf, if_pos (Tree.exists?_of_way hw), h, ← setIn_text]
  rfl

/-- What the files of a project set, where each of them has some lines or is not there. -/
private theorem fileVariables_of_held {held : String → Option Assignments}
    (hheld : ∀ file ∈ variableFiles,
      match held file with
      | none => t.exists? (join root file) = false
      | some a => t.readText (join root file) = .ok a.text) :
    fileVariables t root =
      .ok (variableFiles.map fun file => (held file).elim [] Assignments.names).flatten := by
  -- each of the files can be read, so all of them are
  have hread : ∀ file ∈ variableFiles,
      (variablesOf t ∘ join root) file = .ok ((held file).elim [] Assignments.names) := by
    intro file hmem
    have hfile := hheld file hmem
    rw [Function.comp_apply]
    cases hheld : held file with
    | none =>
      rw [hheld] at hfile
      exact variablesOf_of_not_exists hfile
    | some a =>
      rw [hheld] at hfile
      exact variablesOf_of_readText hfile
  rw [fileVariables, List.mapM_map, mapM_eq_ok hread]
  rfl

/-- **The variables that the files of a project set**, whatever their lines are. -/
theorem environment_of_files {settings : EnvironmentSettings}
    (hsource : settings.source = .files) (process : List String)
    {held : String → Option Assignments}
    (hheld : ∀ file ∈ [".env", ".env.local", ".env.development", ".env.example"],
      match held file with
      | none => t.exists? (join root file) = false
      | some a => t.readText (join root file) = .ok a.text) :
    ∃ names, environment t root settings process = .ok names ∧
      ∀ x, x ∈ names ↔ x ∉ settings.ignore ∧
        ∃ file ∈ [".env", ".env.local", ".env.development", ".env.example"],
          ∃ a ∈ held file, x ∈ a.names := by
  have hfiles := fileVariables_of_held hheld
  -- a name is in the environment when one of the files names it and it is not ignored
  refine ⟨_, by rw [environment, hsource, hfiles]; rfl, fun x => ?_⟩
  rw [Names.mem_without, Names.mem_ofList, Names.mem_ofList, and_comm, List.mem_flatten]
  refine and_congr_right fun _ => ⟨?_, ?_⟩
  · rintro ⟨names, hnames, hx⟩
    obtain ⟨file, hfile, rfl⟩ := List.mem_map.1 hnames
    cases hheld : held file with
    | none =>
      rw [hheld] at hx
      cases hx
    | some a =>
      rw [hheld] at hx
      exact ⟨file, hfile, a, hheld, hx⟩
  · rintro ⟨file, hfile, a, ha, hx⟩
    refine ⟨_, List.mem_map_of_mem hfile, ?_⟩
    rw [ha]
    exact hx

/-- A file with a comment, a variable that is exported and has signs of other lines in its value, and a
last line that nothing ends. -/
def mixedLines : Assignments where
  ended :=
    [(.comment ⟨[' '], by decide +kernel, by decide +kernel⟩ { chars := "# A=1".toList }, .feed),
      (.assignment .empty (some { chars := ['\t'] }) { chars := "KEY".toList } { chars := [' '] }
        { chars := "export B=#'2'".toList }, .returnFeed),
      (.blank .empty, .feed)]
  last := some (.assignment .empty none { chars := "exporter".toList } .empty { chars := [] })

/-- A project with one of the files. -/
def mixedProject : Tree := Tree.empty.withFile ["page", ".env.local"] (.text mixedLines.text)

/-- The variable that is exported is among those that the project runs with, and the one that is left out
is not. -/
theorem environment_of_files_mixed :
    mixedLines.text = " ## A=1\nexport \tKEY =export B=#'2'\r\n\nexporter=" ∧
      ∃ names, environment mixedProject "/page" { source := .files, ignore := ["exporter"] } [] =
          .ok names ∧
        "KEY" ∈ names ∧ "B" ∉ names ∧ "exporter" ∉ names := by
  have hnames : mixedLines.names = ["KEY", "exporter"] := by decide +kernel
  have hread : mixedProject.readText (join "/page" ".env.local") = .ok mixedLines.text :=
    Tree.readText_eq_ok_iff.2 ⟨["page", ".env.local"], by decide +kernel, by decide +kernel⟩
  have habsent : ∀ file ∈ [".env", ".env.development", ".env.example"],
      mixedProject.exists? (join "/page" file) = false := by decide +kernel
  have hheld : ∀ file ∈ [".env", ".env.local", ".env.development", ".env.example"],
      match (if file = ".env.local" then some mixedLines else none) with
      | none => mixedProject.exists? (join "/page" file) = false
      | some a => mixedProject.readText (join "/page" file) = .ok a.text := by
    intro file hfile
    by_cases h : file = ".env.local"
    · subst h
      rw [if_pos rfl]
      exact hread
    · rw [if_neg h]
      exact habsent file (by simpa [h] using hfile)
  have hsource : ({ source := .files, ignore := ["exporter"] } : EnvironmentSettings).source = .files := rfl
  obtain ⟨names, hall, hmem⟩ := environment_of_files hsource [] hheld
  refine ⟨by decide +kernel, names, hall, (hmem "KEY").2 ?_, fun h => ?_,
    fun h => ((hmem "exporter").1 h).1 (by simp)⟩
  · exact ⟨by simp, ".env.local", by simp, mixedLines, rfl, by simp [hnames]⟩
  · obtain ⟨-, file, -, a, ha, hb⟩ := (hmem "B").1 h
    split at ha
    · cases ha
      rw [hnames] at hb
      exact absurd hb (by decide +kernel)
    · cases ha

end EnvSchema.Project
