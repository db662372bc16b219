import EnvSchema.Config.Settings
import EnvSchema.Proofs.Project.Listing

/-!
# The dialects of the files that are searched

A file is listed for what its name ends with, and it is read for the ending of its name, which is none
where the name starts with its last dot. The two agree on all names but those that are nothing else
than a dot and an extension: such a file is listed, and never read.

* `extension?_of_fileName?` — the ending of a name with a dot in it;
* `fileName?_of_components` — the last name of a listed path;
* `dialectOf?_listed` — which of the listed files are read.
-/

namespace EnvSchema.Project

open Files (Tree components extension? fileName? isAbsolute isName)

variable {t : Tree} {folder path extension name : String} {exclude names : List String}

/-- The last name of a path in a folder. -/
theorem fileName?_of_components (h : components path = components folder ++ names)
    (hlast : names.getLast? = some name) (hname : isName name = true) : fileName? path = some name := by
  obtain ⟨⟨-, hslash⟩, hdot, hdots⟩ := Files.isName_iff.1 hname
  have hroot : name ≠ "/" := by
    rintro rfl
    exact hslash (by simp)
  have hall : (components path).getLast? = some name := by
    rw [h, List.getLast?_append, hlast]
    rfl
  -- the root and the dots are the components that are not names; this one is a name
  rw [fileName?, hall]
  split
  · next heq => exact nomatch heq
  · next heq => exact absurd (Option.some.inj heq) hroot
  · next heq => exact absurd (Option.some.inj heq) hdot
  · next heq => exact absurd (Option.some.inj heq) hdots
  · next heq => rw [heq]

/-- **The ending of a name** is what follows its last dot, if anything stands before that. -/
theorem extension?_of_fileName? {stem : List Char} (h : fileName? path = some name)
    (hname : name.toList = stem ++ '.' :: extension.toList) (hdot : '.' ∉ extension.toList) :
    extension? path = if stem = [] then none else some extension := by
  -- the extension is looked for from the end of the name: the first dot met there is the one before it
  have hreverse : name.toList.reverse = extension.toList.reverse ++ '.' :: stem.reverse := by
    simp [hname]
  have hpass : ∀ c ∈ extension.toList.reverse, (c != '.') = true := by
    intro c hc
    have hmem := List.mem_reverse.1 hc
    exact bne_iff_ne.2 fun heq => hdot (heq ▸ hmem)
  have hdrop : name.toList.reverse.dropWhile (· != '.') = '.' :: stem.reverse := by
    rw [hreverse, List.dropWhile_append_of_pos hpass]
    simp
  have htake : name.toList.reverse.takeWhile (· != '.') = extension.toList.reverse := by
    rw [hreverse, List.takeWhile_append_of_pos hpass]
    simp
  rw [extension?, h]
  simp only [Option.bind_eq_bind, Option.bind_some, hdrop, htake, List.reverse_reverse,
    String.ofList_toList]
  cases stem using List.reverseRecOn with
  | nil => rfl
  | append_singleton stem c => simp

/-- The extensions that are searched for by default hold no dots, and files with them are scripts. -/
private theorem default_extension (h : extension ∈ ({} : UserSettings).extensions) :
    (∀ c ∈ extension.toList, ¬ Glob.IsSpecial c ∧ c ≠ '/') ∧ '.' ∉ extension.toList ∧
      ∃ dialect, Script.Dialect.ofExtension? extension = some dialect := by
  have hall : ∀ e ∈ ({} : UserSettings).extensions,
      (e.toList.all fun c => !decide (Glob.IsSpecial c) && c != '/') = true ∧
        '.' ∉ e.toList ∧ (Script.Dialect.ofExtension? e).isSome = true := by decide +kernel
  obtain ⟨hplain, hdot, hdialect⟩ := hall extension h
  exact ⟨plain_of_all hplain, hdot, Option.isSome_iff_exists.1 hdialect⟩

/-- **A file that is searched by default is a script**, unless its name is nothing but a dot and an
extension. -/
theorem dialectOf?_eq_none_iff (hcomponents : components path = components folder ++ names)
    (hnames : ∀ name ∈ names, isName name = true)
    (hwanted : IsWanted ({} : UserSettings).extensions exclude names) : dialectOf? path = none ↔
      ∃ extension ∈ ({} : UserSettings).extensions, fileName? path = some ("." ++ extension) := by
  obtain ⟨extension, hmem, name, hlast, stem, hname⟩ := hwanted.ending
  obtain ⟨-, hdot, dialect, hdialect⟩ := default_extension hmem
  have hfile : fileName? path = some name :=
    fileName?_of_components hcomponents hlast (hnames name (List.mem_of_getLast? hlast))
  have hext := extension?_of_fileName? hfile hname.symm hdot
  have hnone : dialectOf? path = none ↔ stem = [] := by
    rw [dialectOf?, hext]
    by_cases hstem : stem = [] <;> simp [hstem, hdialect]
  rw [hnone, hfile]
  constructor
  · rintro rfl
    refine ⟨extension, hmem, congrArg some (String.toList_inj.1 ?_)⟩
    simpa using hname.symm
  · rintro ⟨other, hother, hsame⟩
    obtain ⟨-, hotherDot, -⟩ := default_extension hother
    cases stem with
    | nil => rfl
    | cons c stem =>
      -- the dot before the extension would be another one than the first character
      have hchars : c :: stem ++ '.' :: extension.toList = '.' :: other.toList := by
        rw [hname, Option.some.inj hsame]
        simp
      have htail : stem ++ '.' :: extension.toList = other.toList := (List.cons.inj hchars).2
      exact absurd (htail ▸ List.mem_append_right _ List.mem_cons_self) hotherDot

/-- **By default every file that is listed is read and searched as a script**, unless its name is
nothing but a dot and an extension: those files are listed, and nothing is looked for in them. -/
theorem dialectOf?_listed (ht : t.Named) (hfolder : isAbsolute folder = true) : ∃ files,
    sourceFiles t folder ({} : UserSettings).extensions exclude = .ok files ∧ ∀ path ∈ files,
      (dialectOf? path = none ↔
        ∃ extension ∈ ({} : UserSettings).extensions, fileName? path = some ("." ++ extension)) ∧
      ∀ dialect declared found, dialectOf? path = some dialect →
        undeclaredIn t declared path = .ok found → ∃ source m, t.readText path = .ok source ∧
          Script.Module.parse dialect source = .ok m ∧ m.firstUndeclared declared = found := by
  obtain ⟨files, hfiles, -, hfrom, -⟩ := exists_sourceFiles exclude ht hfolder
    fun extension hmem => (default_extension hmem).1
  refine ⟨files, hfiles, fun path hpath => ⟨?_, ?_⟩⟩
  · obtain ⟨names, hlies, hwanted, rfl⟩ := hfrom path hpath
    have hcomponents := components_rooted_append hwanted.ne_nil hlies.proper hfolder
    exact dialectOf?_eq_none_iff hcomponents hlies.proper hwanted
  · intro dialect declared found hdialect hfound
    rcases undeclaredIn_eq_ok_iff.1 hfound with ⟨hnone, -⟩ | ⟨_, source, m, hd, hs, hm, hfound⟩
    · exact nomatch hnone.symm.trans hdialect
    · cases hd.symm.trans hdialect
      exact ⟨source, m, hs, hm, hfound⟩

/-- A project with a script whose name is nothing but a dot and an extension, and one with a longer
name. -/
def dottedScript : Tree :=
  (Tree.empty.withFile ["src", ".ts"] (.text "process.env.A")).withFile ["src", "a.ts"] (.text "")

/-- The script with the longer name is read. -/
theorem dialectOf?_listed_dotted : ∃ files,
    sourceFiles dottedScript "/src" ({} : UserSettings).extensions [] = .ok files ∧
      ∀ path ∈ files, fileName? path = some "a.ts" → dialectOf? path ≠ none := by
  obtain ⟨files, hfiles, hlisted⟩ := dialectOf?_listed
    (by decide +kernel : dottedScript.Named) (by decide +kernel : isAbsolute "/src" = true)
  refine ⟨files, hfiles, fun path hpath hname hnone => ?_⟩
  have hother : ∀ extension ∈ ({} : UserSettings).extensions, "a.ts" ≠ "." ++ extension := by
    decide +kernel
  obtain ⟨extension, hmem, hsame⟩ := (hlisted path hpath).1.1 hnone
  exact hother extension hmem (Option.some.inj (hname.symm.trans hsame))

/-- **A listed file that is not looked at**: what it reads is not declared, and is not found. -/
theorem exists_listed_unread : ∃ files,
    sourceFiles dottedScript "/src" ({} : UserSettings).extensions [] = .ok files ∧
      ∃ path ∈ files, dialectOf? path = none ∧ undeclaredIn dottedScript {} path = .ok none ∧
        dottedScript.readText path = .ok "process.env.A" ∧
        (Script.Module.parse (.typescript false) "process.env.A").toOption.any
          (fun m => m.firstUndeclared {} == some "A") = true := by
  have hfolder : isAbsolute "/src" = true := by decide +kernel
  obtain ⟨files, hfiles, -, hfrom, hall⟩ := exists_sourceFiles []
    (by decide +kernel : dottedScript.Named) hfolder fun extension hmem => (default_extension hmem).1
  have hlies : LiesIn dottedScript "/src" [".ts"] :=
    ⟨by decide +kernel, "/src/.ts", by decide +kernel, by decide +kernel, by decide +kernel⟩
  have hwanted : IsWanted ({} : UserSettings).extensions [] [".ts"] :=
    ⟨⟨"ts", by decide, ".ts", rfl, by decide +kernel⟩, by simp⟩
  obtain ⟨path, hpath, hcomponents⟩ := hall [".ts"] hlies hwanted
  have hname : fileName? path = some ".ts" :=
    fileName?_of_components hcomponents rfl (by decide +kernel)
  have hnone : dialectOf? path = none :=
    (dialectOf?_eq_none_iff hcomponents hlies.proper hwanted).2 ⟨"ts", by decide, hname⟩
  refine ⟨files, hfiles, path, hpath, hnone, undeclaredIn_eq_ok_iff.2 (.inl ⟨hnone, rfl⟩), ?_,
    by decide +kernel⟩
  -- the path is the shortest one with its names
  obtain ⟨names, hlies', hwanted', rfl⟩ := hfrom path hpath
  rw [components_rooted_append hwanted'.ne_nil hlies'.proper hfolder] at hcomponents
  rw [List.append_cancel_left hcomponents]
  rfl

end EnvSchema.Project
