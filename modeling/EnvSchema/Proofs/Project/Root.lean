import EnvSchema.Project.Root
import EnvSchema.Proofs.Files.Below
import Mathlib.Data.List.Infix

/-!
# Where a project is found

A project is looked for in the folder at a path and in those that the path lies in. All that counts is
the names on the path; intermediate folders may be missing or be files, and a folder that goes by the
name of the manifest is none.

* `isProject_iff`, `isProject_of_shorter` — whether a folder is a project, by the steps to it;
* `longest_of_locate`, `exists_locate_iff` — what is found, and whether anything is;
* `locate_of_within` — what lies below a project, with none between, is in that project;
* `locate_longest` — **the longest path with a manifest that a path is or lies below is found**, there is
  a failure just if there is none, and the same project is found again from it and from what lies below
  it.
-/

namespace EnvSchema.Project

open Files

variable {t : Tree} {start path root p q : String}

private theorem plain_manifestName : Plain manifestName := ⟨by decide, by decide⟩

/-- **Whether a folder is a project** hangs on the steps of the path to it, but for its length. -/
theorem isProject_iff (hp : isAbsolute p = true) :
    isProject t p = true ↔
      t.HasFile (steps p) manifestName ∧ (join p manifestName).utf8ByteSize ≤ Tree.maxPath :=
  Tree.isFile_join_iff hp plain_manifestName (by decide)

/-- A project is one by a shorter spelling of the path to it as well. -/
theorem isProject_of_shorter (hp : isAbsolute p = true) (hq : isAbsolute q = true)
    (hsteps : steps p = steps q) (hpre : q.toList <+: p.toList) (h : isProject t p = true) :
    isProject t q = true := by
  obtain ⟨hfile, hsize⟩ := (isProject_iff hp).1 h
  exact (isProject_iff hq).2 ⟨hsteps ▸ hfile,
    (Tree.utf8ByteSize_join_le hp plain_manifestName hq hpre).trans hsize⟩

theorem innermost_find?_isProject (h : isAbsolute start = true) :
    Innermost (isProject t) start ((ancestors start).find? (isProject t)) :=
  innermost_find?_ancestors h fun _ _ => isProject_of_shorter

/-- **What is found is the innermost project** that a path is or lies in. -/
theorem locate_eq_ok_iff : locate t start = .ok root ↔ (ancestors start).find? (isProject t) = some root := by
  unfold locate
  cases (ancestors start).find? (isProject t) <;> simp

/-- There is a project or there is none. -/
theorem locate_cases (t : Tree) (start : String) :
    (∃ root, locate t start = .ok root) ∨ locate t start = .error (.noProject start) := by
  unfold locate
  cases (ancestors start).find? (isProject t) with
  | none => exact .inr rfl
  | some root => exact .inl ⟨root, rfl⟩

/-- **What is found** is a project that the path is or lies in, and no longer one is. -/
theorem longest_of_locate (h : isAbsolute start = true) (hroot : locate t start = .ok root) :
    Within root start ∧ isProject t root = true ∧
      ∀ p, Within p start → isProject t p = true → components p <+: components root := by
  have hfound := innermost_find?_isProject (t := t) h
  rw [locate_eq_ok_iff.1 hroot] at hfound
  obtain ⟨hproject, hwithin, hlongest⟩ := hfound
  refine ⟨hwithin, hproject, fun p hp hproject => ?_⟩
  rw [components_eq_cons_steps hp.1, components_eq_cons_steps hwithin.1, List.prefix_cons_inj]
  exact hlongest p hp hproject

/-- **The search fails** where the path neither is a project nor lies in one. -/
theorem locate_eq_error_iff (h : isAbsolute start = true) :
    locate t start = .error (.noProject start) ↔ ∀ p, Within p start → isProject t p = false := by
  constructor
  · intro hfails
    have hfound := innermost_find?_isProject (t := t) h
    cases hr : (ancestors start).find? (isProject t) with
    | none => rwa [hr] at hfound
    | some root => cases (locate_eq_ok_iff.2 hr).symm.trans hfails
  · intro hnone
    rcases locate_cases t start with ⟨root, hroot⟩ | hfails
    · obtain ⟨hwithin, hproject, -⟩ := longest_of_locate h hroot
      exact absurd hproject (Bool.eq_false_iff.1 (hnone root hwithin))
    · exact hfails

theorem exists_locate_iff (h : isAbsolute start = true) :
    (∃ root, locate t start = .ok root) ↔ ∃ p, Within p start ∧ isProject t p = true := by
  constructor
  · rintro ⟨root, hroot⟩
    obtain ⟨hwithin, hproject, -⟩ := longest_of_locate h hroot
    exact ⟨root, hwithin, hproject⟩
  · rintro ⟨p, hp, hproject⟩
    refine (locate_cases t start).resolve_right fun hfails => ?_
    exact absurd hproject (Bool.eq_false_iff.1 ((locate_eq_error_iff h).1 hfails p hp))

/-- A project is found from within it. -/
theorem locate_self (h : isProject t root = true) : locate t root = .ok root := by
  refine locate_eq_ok_iff.2 ?_
  unfold ancestors
  cases (components root).length with
  | zero => simp [ancestorsUpTo, h]
  | succ n =>
    rw [ancestorsUpTo]
    cases parent? root <;> simp [h]

/-- What lies below a project, with none strictly between, is in that project. -/
theorem locate_of_within (hp : Within p path) (hproject : isProject t p = true)
    (hbetween : ∀ q, Within q path → components p <+: components q → components q ≠ components p →
      isProject t q = false) :
    ∃ root, locate t path = .ok root ∧ components root = components p := by
  obtain ⟨root, hroot⟩ := (exists_locate_iff hp.isAbsolute).2 ⟨p, hp, hproject⟩
  obtain ⟨hwithin, hrootProject, hlongest⟩ := longest_of_locate hp.isAbsolute hroot
  refine ⟨root, hroot, ?_⟩
  by_contra hne
  exact absurd hrootProject
    (Bool.eq_false_iff.1 (hbetween root hwithin (hlongest p hp hproject) hne))

/-- **A path that is at some other one or below it**: it goes on from that path, or from another
spelling of it, where it must not be too long for a manifest to be looked for there. -/
def Under (root path : String) : Prop :=
  Within root path ∨ isAbsolute path = true ∧ components root <+: components path ∧
    (join path manifestName).utf8ByteSize ≤ Tree.maxPath

/-- A path under a project is or lies below that project, in a spelling by which it is one. -/
theorem Under.exists_project (h : Under root path) (habs : isAbsolute root = true)
    (hroot : isProject t root = true) :
    ∃ p, Within p path ∧ components p = components root ∧ isProject t p = true := by
  rcases h with h | ⟨hpath, hpre, hsize⟩
  · exact ⟨root, h, rfl, hroot⟩
  · rw [components_eq_cons_steps habs, components_eq_cons_steps hpath, List.prefix_cons_inj] at hpre
    obtain ⟨p, hp, hsteps⟩ := exists_within hpath hpre
    refine ⟨p, hp, ?_, (isProject_iff hp.1).2 ⟨?_, ?_⟩⟩
    · rw [components_eq_cons_steps habs, components_eq_cons_steps hp.1, hsteps]
    · exact hsteps ▸ ((isProject_iff habs).1 hroot).1
    · exact (Tree.utf8ByteSize_join_le hpath plain_manifestName hp.1 hp.isPrefix).trans hsize

/-- **The project of a path from the root** is the longest one of the path and the folders that it lies
in that holds a manifest, and looking for it fails just if there is none. Looked for from the project, and
from any path under it without a manifest on the way, the project is found again. -/
theorem locate_longest (h : isAbsolute start = true) (t : Tree) :
    ((∃ root, locate t start = .ok root) ↔ ∃ p, Within p start ∧ isProject t p = true) ∧
      (locate t start = .error (.noProject start) ↔ ∀ p, Within p start → isProject t p = false) ∧
      ∀ root, locate t start = .ok root →
        Within root start ∧ isProject t root = true ∧
          (∀ p, Within p start → isProject t p = true → components p <+: components root) ∧
          locate t root = .ok root ∧
          ∀ path, Under root path →
            (∀ p, Within p path → components root <+: components p → components p ≠ components root →
              isProject t p = false) →
            ∃ again, locate t path = .ok again ∧ components again = components root := by
  refine ⟨exists_locate_iff h, locate_eq_error_iff h, fun root hroot => ?_⟩
  obtain ⟨hwithin, hproject, hlongest⟩ := longest_of_locate h hroot
  refine ⟨hwithin, hproject, hlongest, locate_self hproject, fun path hunder hbetween => ?_⟩
  obtain ⟨p, hp, hsame, hproject⟩ := hunder.exists_project hwithin.1 hproject
  obtain ⟨again, hagain, hcomponents⟩ := locate_of_within hp hproject (hsame ▸ hbetween)
  exact ⟨again, hagain, hcomponents.trans hsame⟩

/-- A project in which a folder goes by the name of the manifest. -/
def nestedProject : Tree :=
  (Tree.empty.withFile ["page", "package.json"] (.text "{}")).withFolders ["page", "src", "package.json"]

/-- From below that folder the project around it is found, where some folders on the path are missing. -/
theorem locate_longest_nested :
    isAbsolute "/page/src//gone/x" = true ∧ locate nestedProject "/page/src//gone/x" = .ok "/page" ∧
      Under "/page" "//page/./src" ∧
      ∃ again, locate nestedProject "//page/./src" = .ok again ∧ components again = ["/", "page"] := by
  have habs : isAbsolute "/page/src//gone/x" = true := by decide +kernel
  have hroot : locate nestedProject "/page/src//gone/x" = .ok "/page" := by decide +kernel
  have hunder : Under "/page" "//page/./src" := by
    refine .inr ⟨by decide +kernel, by decide +kernel, by decide +kernel⟩
  refine ⟨habs, hroot, hunder, ?_⟩
  obtain ⟨-, -, hfound⟩ := locate_longest habs nestedProject
  obtain ⟨-, -, -, -, hagain⟩ := hfound _ hroot
  have hcomponents : components "/page" = ["/", "page"] := by decide +kernel
  rw [hcomponents] at hagain
  refine hagain _ hunder fun p hp hpre hne => Bool.eq_false_iff.2 fun hproject => ?_
  -- the only folder on the way has a folder for its manifest
  have hfolders : ∀ s ∈ (steps "//page/./src").inits, ["/", "page"] <+: "/" :: s → "/" :: s ≠ ["/", "page"] →
      nestedProject.follow [] (s ++ [manifestName]) = .ok ["page", "src", "package.json"] := by
    decide +kernel
  rw [components_eq_cons_steps hp.1] at hpre hne
  have hmanifest := hfolders _ ((List.mem_inits _ _).2 hp.prefix_steps) hpre hne
  obtain ⟨⟨-, w, c, hw, hc⟩, -⟩ := (isProject_iff hp.1).1 hproject
  obtain rfl : ["page", "src", "package.json"] = w := Except.ok.inj (hmanifest.symm.trans hw)
  have hfolder : nestedProject.get? ["page", "src", "package.json"] = some .folder := by decide +kernel
  exact nomatch hfolder.symm.trans hc

end EnvSchema.Project
