import EnvSchema.Proofs.Files.Way
import Mathlib.Data.List.DropRight

/-!
# The folders that a path lies in

A path lies below another one if it goes on from it, behind a slash, with a further name. How the
slashes and dots between the names are written does not matter, so there is more than one path to a
folder that a path lies in; the shortest of them is the one that is found when the last name is taken
away.

* `steps`, `steps_append` — the names of a path, without the pieces that say nothing;
* `Below`, `Below.trans` — a path that lies below another one;
* `trimmed_rooted`, `parent?_cases` — what taking away the last name does: **a path lies below no other
  folders than the one it is in**, in whatever spelling, and those that this one lies below;
* `Within`, `innermost_find?_ancestors` — the first folder of some kind that a path lies in is the
  innermost one;
* `Tree.isFile_join_iff` — whether there is a file by some name in a folder hangs on the steps of the
  path to the folder, but for its length.
-/

namespace EnvSchema.Files

variable {p q path more : String} {front back names qs ys zs : List String} {x name : String}

/-! ### Names -/

/-- **The pieces of a path that stand for a step.** -/
def steps (path : String) : List String := (pieces path).filter isStep

theorem components_eq_cons_steps (h : isAbsolute path = true) : components path = "/" :: steps path := by
  rw [components, if_pos h]
  rfl

theorem steps_rooted (h : ∀ name ∈ names, '/' ∉ name.toList) :
    steps (rooted names) = names.filter isStep := by
  rw [steps, pieces_rooted h, List.filter_cons_of_neg (by decide)]

theorem isAbsolute_rooted (h : names ≠ []) : isAbsolute (rooted names) = true := by
  obtain ⟨name, names, rfl⟩ := List.exists_cons_of_ne_nil h
  exact isAbsolute_iff.2 ⟨_, by rw [toList_rooted, List.flatMap_cons, List.cons_append]⟩

/-- The piece that stands for no step is empty or a dot. -/
theorem isStep_eq_false_iff : isStep name = false ↔ name = "" ∨ name = "." := by
  by_cases h : name = "" <;> simp [isStep, h]

theorem exists_of_endsWith_slash (h : p.endsWith "/" = true) : ∃ q, p = q ++ "/" := by
  obtain ⟨cs, hcs⟩ := List.getLast?_eq_some_iff.1 (endsWith_slash_iff.1 h)
  exact ⟨String.ofList cs, String.toList_inj.1 (by simp [hcs])⟩

theorem exists_of_isAbsolute (h : isAbsolute more = true) : ∃ rest, more = "/" ++ rest := by
  obtain ⟨cs, hcs⟩ := isAbsolute_iff.1 h
  exact ⟨String.ofList cs, String.toList_inj.1 (by simp [hcs])⟩

/-- **A path that goes on behind a slash** has the pieces of both parts, but for the empty ones on the
sides of the slash. -/
theorem pieces_append (more : String) (h : p.endsWith "/" = true ∨ isAbsolute more = true) :
    ∃ front back, pieces (p ++ more) = front ++ back ∧ (pieces p = front ∨ pieces p = front ++ [""]) ∧
      (pieces more = back ∨ pieces more = "" :: back) := by
  have hempty : pieces "" = [""] := rfl
  rcases h with h | h
  · obtain ⟨q, rfl⟩ := exists_of_endsWith_slash h
    refine ⟨pieces q, pieces more, pieces_append_slash q more, .inr ?_, .inl rfl⟩
    rw [← String.append_empty (s := q ++ "/"), pieces_append_slash, hempty]
  · obtain ⟨rest, rfl⟩ := exists_of_isAbsolute h
    refine ⟨pieces p, pieces rest, ?_, .inl rfl, .inr ?_⟩
    · rw [← String.append_assoc, pieces_append_slash]
    · rw [← String.empty_append (s := "/" ++ rest), ← String.append_assoc, pieces_append_slash, hempty]
      rfl

/-- Its steps are those of both parts. -/
theorem steps_append (h : p.endsWith "/" = true ∨ isAbsolute more = true) :
    steps (p ++ more) = steps p ++ steps more := by
  obtain ⟨front, back, hpieces, hfront, hback⟩ := pieces_append _ h
  have hnone : isStep "" = false := rfl
  have hp : steps p = front.filter isStep := by
    rcases hfront with hfront | hfront <;> simp [steps, hfront, hnone]
  have hmore : steps more = back.filter isStep := by
    rcases hback with hback | hback <;> simp [steps, hback, hnone]
  rw [steps, hpieces, List.filter_append, hp, hmore]

/-! ### Below -/

/-- **A path lies below another one**: it goes on from there, behind a slash, with a further name. -/
def Below (p path : String) : Prop :=
  ∃ more, path = p ++ more ∧ (p.endsWith "/" = true ∨ isAbsolute more = true) ∧ steps more ≠ []

theorem Below.trans (h : Below p q) (h' : Below q path) : Below p path := by
  obtain ⟨more, rfl, hp, hmore⟩ := h
  obtain ⟨more', rfl, hq, -⟩ := h'
  have hne : more.toList ≠ [] := fun h => hmore (by rw [String.toList_eq_nil_iff.1 h]; rfl)
  have hends : more.endsWith "/" = true ∨ isAbsolute more' = true := by
    refine hq.imp_left fun h => ?_
    rw [endsWith_slash_iff, String.toList_append, List.getLast?_append_of_ne_nil _ hne] at h
    exact endsWith_slash_iff.2 h
  refine ⟨more ++ more', String.append_assoc .., hp.imp_right fun h => ?_, ?_⟩
  · obtain ⟨rest, rfl⟩ := exists_of_isAbsolute h
    exact isAbsolute_iff.2 ⟨(rest ++ more').toList, by simp⟩
  · rw [steps_append hends]
    exact List.append_ne_nil_of_left_ne_nil hmore _

/-- A path has the steps of those that it lies below, and further ones. -/
theorem Below.steps (h : Below p path) : ∃ s, s ≠ [] ∧ steps path = steps p ++ s := by
  obtain ⟨more, rfl, hp, hmore⟩ := h
  exact ⟨Files.steps more, hmore, steps_append hp⟩

theorem Below.isAbsolute (h : Below p path) (hp : isAbsolute p = true) : isAbsolute path = true := by
  obtain ⟨more, rfl, -, -⟩ := h
  obtain ⟨cs, hcs⟩ := isAbsolute_iff.1 hp
  exact isAbsolute_iff.2 ⟨cs ++ more.toList, by simp [hcs]⟩

/-- A path from the root is written with names. -/
private theorem exists_spells (hp : isAbsolute p = true)
    (hfront : pieces p = front ∨ pieces p = front ++ [""]) :
    ∃ names, front = "" :: names ∧ Spells names p := by
  have hne : (pieces p).tail ≠ [] := by
    rw [← pieces_drop hp]
    simp [pieces]
  have hpath := rooted_tail_pieces hp
  -- a path without a slash at its end is the entry, one with a slash is the folder
  rcases hfront with hfront | hfront
  · refine ⟨(pieces p).tail, hfront ▸ pieces_of_isAbsolute hp, ?_⟩
    have hspells : Spells (pieces p).tail (rooted (pieces p).tail) := .entry hne
    rwa [hpath] at hspells
  · cases front with
    | nil => exact absurd (by rw [hfront]; rfl) hne
    | cons first names =>
      obtain ⟨rfl, htail⟩ := List.cons.inj ((pieces_of_isAbsolute hp).symm.trans hfront)
      have htail : (pieces p).tail = names ++ [""] := htail
      refine ⟨names, rfl, ?_⟩
      have hspells : Spells names (rooted names ++ "/") := .folder
      rwa [← rooted_append_empty, ← htail, hpath] at hspells

/-- **What a path from the root lies below** is written with the first of its names. -/
theorem below_rooted_iff (hp : isAbsolute p = true) (hslash : ∀ name ∈ names, '/' ∉ name.toList) :
    Below p (rooted names) ↔
      ∃ front back, names = front ++ back ∧ back.filter isStep ≠ [] ∧ Spells front p := by
  constructor
  · rintro ⟨more, hpath, hends, hmore⟩
    obtain ⟨front, back, hpieces, hfront, hback⟩ := pieces_append _ hends
    rw [← hpath, pieces_rooted hslash] at hpieces
    obtain ⟨front, rfl, hspells⟩ := exists_spells hp hfront
    refine ⟨front, back, List.tail_eq_of_cons_eq hpieces, ?_, hspells⟩
    have hnone : isStep "" = false := rfl
    rcases hback with hback | hback <;> simpa [steps, hback, hnone] using hmore
  · rintro ⟨front, back, rfl, hback, hspells⟩
    obtain ⟨hfront, hslash⟩ := List.forall_mem_append.1 hslash
    cases hspells with
    | folder =>
      -- the slash is the last character of the path, so what is behind it starts with a name
      cases back with
      | nil => exact absurd rfl hback
      | cons b back =>
        have hmore : steps (b ++ rooted back) = (b :: back).filter isStep := by
          obtain ⟨hb, hrest⟩ := List.forall_mem_cons.1 hslash
          have hone : steps b = [b].filter isStep := by rw [steps, pieces_of_not_mem hb]
          cases back with
          | nil => rw [← hone, show rooted [] = "" from rfl, String.append_empty]
          | cons c back =>
            rw [steps_append (.inr (isAbsolute_rooted (List.cons_ne_nil _ _))), hone, steps_rooted hrest,
              ← List.filter_append, List.singleton_append]
        refine ⟨b ++ rooted back, ?_, .inl ?_, hmore ▸ hback⟩
        · refine String.toList_inj.1 ?_
          simp [toList_rooted]
        · rw [endsWith_slash_iff]
          simp
    | entry hne =>
      refine ⟨rooted back, ?_, .inr ?_, steps_rooted hslash ▸ hback⟩
      · refine String.toList_inj.1 ?_
        simp [toList_rooted]
      · refine isAbsolute_rooted ?_
        rintro rfl
        exact hback rfl

/-! ### Taking away the last name -/

/-- **The shortest path with given names**: a slash before each of them, or a slash alone. -/
def base (names : List String) : String := if names = [] then "/" else rooted names

theorem spells_base (names : List String) : Spells names (base names) := by
  unfold base
  split
  · next h =>
    subst h
    exact .folder
  · next h => exact .entry h

theorem isAbsolute_base (names : List String) : isAbsolute (base names) = true :=
  (spells_base names).isAbsolute

/-- It has the names as its steps, but for those that say nothing. -/
theorem Spells.steps_eq (h : Spells names p) (hslash : ∀ name ∈ names, '/' ∉ name.toList) :
    steps p = names.filter isStep := by
  cases h with
  | folder =>
    have hempty : ∀ name ∈ names ++ [""], '/' ∉ name.toList :=
      List.forall_mem_append.2 ⟨hslash, by simp⟩
    rw [← rooted_append_empty, steps_rooted hempty, List.filter_append]
    simp [isStep]
  | entry => exact steps_rooted hslash

/-- Paths that have more names start with it. -/
theorem Spells.prefix_base {more : List String} (h : Spells (names ++ more) p) :
    (base names).toList <+: p.toList := by
  unfold base
  split
  · obtain ⟨cs, hcs⟩ := isAbsolute_iff.1 h.isAbsolute
    exact ⟨cs, hcs.symm⟩
  · have hrooted : (rooted names).toList <+: (rooted (names ++ more)).toList := by
      rw [toList_rooted, toList_rooted, List.flatMap_append]
      exact List.prefix_append _ _
    cases h with
    | folder => exact hrooted.trans (by rw [String.toList_append]; exact List.prefix_append _ _)
    | entry => exact hrooted

/-- Whether a piece says nothing. -/
abbrev isIdle (piece : String) : Bool := !isStep piece

theorem base_of_ne_nil (h : names ≠ []) : base names = rooted names := if_neg h

private theorem trimmed_go_slash {cs : List Char} (h : cs ≠ []) (n : Nat) :
    trimmed.go ('/' :: cs) (n + 1) = trimmed.go cs n := by
  rw [trimmed.go]
  exact h

private theorem trimmed_go_dot {cs : List Char} (h : cs ≠ []) (n : Nat) :
    trimmed.go ('.' :: '/' :: cs) (n + 1) = trimmed.go cs n := by
  rw [trimmed.go]
  exact h

/-- A path that ends with a name stays as it is. -/
private theorem trimmed_go_of_step {w cs : List Char} (hslash : '/' ∉ w) (hne : w ≠ []) (hdot : w ≠ ['.'])
    (n : Nat) : trimmed.go (w ++ '/' :: cs) n = (w ++ '/' :: cs).reverse := by
  obtain ⟨c, w, rfl⟩ := List.exists_cons_of_ne_nil hne
  have hc : c ≠ '/' := fun h => hslash (h ▸ List.mem_cons_self)
  -- a dot that comes last belongs to a longer name
  have hsecond (d : List Char) : w ++ '/' :: cs = '/' :: d → c ≠ '.' := by
    rintro h rfl
    cases w with
    | nil => exact hdot rfl
    | cons e w => exact hslash (by simp [(List.cons.inj h).1])
  unfold trimmed.go
  split
  · next h => exact absurd (List.cons.inj h).1 hc
  · next h => exact absurd (List.cons.inj h).1 hc
  · next h => exact absurd (List.cons.inj h).1 (hsecond _ (List.cons.inj h).2)
  · next h => exact absurd (List.cons.inj h).1 (hsecond _ (List.cons.inj h).2)
  · rfl

/-- A path from its end: its last name, and behind a slash the path without it. -/
private theorem reverse_rooted (names : List String) (name : String) :
    (rooted (names ++ [name])).toList.reverse =
      name.toList.reverse ++ '/' :: (rooted names).toList.reverse := by
  rw [rooted_append_singleton]
  simp

/-- Nothing is taken away behind a step. -/
private theorem trimmed_go_rooted_of_step (hslash : '/' ∉ name.toList) (hstep : isStep name = true)
    (names : List String) (n : Nat) :
    trimmed.go (rooted (names ++ [name])).toList.reverse n = (rooted (names ++ [name])).toList := by
  rw [reverse_rooted, trimmed_go_of_step, ← reverse_rooted, List.reverse_reverse]
  · simpa using hslash
  · rintro h
    rw [String.toList_eq_nil_iff.1 (List.reverse_eq_nil_iff.1 h)] at hstep
    exact absurd hstep (by decide)
  · rintro h
    have hdot : name = "." := String.toList_inj.1 (List.reverse_eq_iff.1 h)
    rw [hdot] at hstep
    exact absurd hstep (by decide)

/-- An idle piece behind others is taken away with the slash before it. -/
private theorem trimmed_go_rooted_of_idle (hne : names ≠ []) (hidle : isStep name = false) (n : Nat) :
    trimmed.go (rooted (names ++ [name])).toList.reverse (n + 1) =
      trimmed.go (rooted names).toList.reverse n := by
  have hcs : (rooted names).toList.reverse ≠ [] := by
    obtain ⟨cs, hcs⟩ := isAbsolute_iff.1 (isAbsolute_rooted hne)
    simp [hcs]
  rw [reverse_rooted]
  rcases isStep_eq_false_iff.1 hidle with rfl | rfl
  · exact trimmed_go_slash hcs n
  · exact trimmed_go_dot hcs n

/-- What is left of a path without the pieces at its end that say nothing. -/
theorem trimmed_rooted (hne : names ≠ []) (hslash : ∀ name ∈ names, '/' ∉ name.toList) :
    trimmed (rooted names).toList = (base (names.rdropWhile isIdle)).toList := by
  -- each piece that is taken away has a slash, so there are no more of them than characters
  suffices h : ∀ n, (rooted names).toList.length ≤ n →
      trimmed.go (rooted names).toList.reverse n = (base (names.rdropWhile isIdle)).toList from
    h _ (by simp)
  induction names using List.reverseRecOn with
  | nil => exact absurd rfl hne
  | append_singleton names name ih =>
    obtain ⟨hnames, hname⟩ := List.forall_mem_append.1 hslash
    rw [List.forall_mem_singleton] at hname
    intro n hn
    cases hstep : isStep name with
    | true =>
      rw [List.rdropWhile_concat_neg _ _ _ (by simp [hstep]), base_of_ne_nil (by simp)]
      exact trimmed_go_rooted_of_step hname hstep names n
    | false =>
      rw [List.rdropWhile_concat_pos _ _ _ (by simp [hstep])]
      by_cases hempty : names = []
      · -- the slash before the first piece stays
        subst hempty
        rcases isStep_eq_false_iff.1 hstep with rfl | rfl
        · simp [trimmed.go, toList_rooted, base]
        · simp [trimmed.go, toList_rooted, base]
      · have hlength : (rooted names).toList.length + 1 ≤ n := by
          refine Nat.le_trans ?_ hn
          simp [rooted_append_singleton]
        obtain ⟨m, rfl⟩ := Nat.exists_eq_add_of_le' (Nat.le_of_add_left_le hlength)
        rw [trimmed_go_rooted_of_idle hempty hstep]
        exact ih hempty hnames m (Nat.le_of_succ_le_succ hlength)

/-- Names that end with a step, if there are any, with idle pieces behind them. -/
private theorem rdropWhile_append (hqs : ∀ last ∈ qs.getLast?, isStep last = true)
    (hzs : ∀ z ∈ zs, isStep z = false) : (qs ++ zs).rdropWhile isIdle = qs := by
  induction zs using List.reverseRecOn with
  | nil =>
    rw [List.append_nil, List.rdropWhile_eq_self_iff]
    intro hne
    simp [hqs _ (List.getLast?_eq_some_getLast hne)]
  | append_singleton zs z ih =>
    obtain ⟨hzs, hz⟩ := List.forall_mem_append.1 hzs
    rw [List.forall_mem_singleton] at hz
    rw [← List.append_assoc, List.rdropWhile_concat_pos _ _ _ (by simp [hz]), ih hzs]

/-- **Names are those up to their last step**, and idle pieces behind it. -/
private theorem exists_steps_append (names : List String) : ∃ qs zs, names = qs ++ zs ∧
    (∀ last ∈ qs.getLast?, isStep last = true) ∧ ∀ z ∈ zs, isStep z = false := by
  refine ⟨names.rdropWhile isIdle, names.rtakeWhile isIdle, List.rdropWhile_append_rtakeWhile.symm,
    fun last hlast => ?_, fun z hz => by simpa using List.mem_rtakeWhile_imp hz⟩
  obtain ⟨hne, rfl⟩ := List.mem_getLast?_eq_getLast hlast
  simpa using List.rdropWhile_last_not isIdle names hne

/-- A path from the root is its pieces behind the first one, none of which has a slash. -/
private theorem exists_rooted (h : isAbsolute path = true) :
    ∃ names, path = rooted names ∧ ∀ name ∈ names, '/' ∉ name.toList :=
  ⟨(pieces path).tail, (rooted_tail_pieces h).symm, fun _ hname =>
    not_mem_of_mem_pieces (List.mem_of_mem_tail hname)⟩

/-- Idle pieces are no steps. -/
private theorem filter_isStep_of_idle (h : ∀ name ∈ names, isStep name = false) :
    names.filter isStep = [] :=
  List.filter_eq_nil_iff.2 fun name hname => by simp [h name hname]

/-- **The last name of a path is taken away** with the characters up to the last slash. -/
private theorem dropWhile_rooted (hname : '/' ∉ name.toList) (names : List String) :
    ((rooted (names ++ [name])).toList.reverse.dropWhile (· != '/')).reverse =
      (rooted (names ++ [""])).toList := by
  have hbefore : ∀ c ∈ name.toList.reverse, (c != '/') = true := by
    intro c hc
    simpa using fun h : c = '/' => hname (h ▸ List.mem_reverse.1 hc)
  rw [reverse_rooted, List.dropWhile_append_of_pos hbefore, List.dropWhile_cons_of_neg (by simp),
    rooted_append_empty]
  simp

section Split

variable (hslash : ∀ name ∈ qs ++ ys ++ x :: zs, '/' ∉ name.toList)
include hslash

/-- The last component of a path is its last step. -/
private theorem getLast?_components_of_split (hx : isStep x = true) (hzs : ∀ z ∈ zs, isStep z = false) :
    (components (rooted (qs ++ ys ++ x :: zs))).getLast? = some x := by
  rw [components_eq_cons_steps (isAbsolute_rooted (by simp)), steps_rooted hslash, List.filter_append,
    List.filter_cons_of_pos hx, filter_isStep_of_idle hzs, List.getLast?_cons, List.getLast?_append]
  rfl

/-- Trimming a path takes away what is idle behind its last step. -/
private theorem trimmed_of_split (hx : isStep x = true) (hzs : ∀ z ∈ zs, isStep z = false) :
    trimmed (rooted (qs ++ ys ++ x :: zs)).toList = (rooted (qs ++ ys ++ [x])).toList := by
  rw [trimmed_rooted (by simp) hslash, List.append_cons (qs ++ ys) x zs,
    rdropWhile_append (by simpa using hx) hzs, base_of_ne_nil (by simp)]

/-- **The folder that a path lies in** is found by taking away its last name and the idle pieces around
it. -/
private theorem parent?_of_split (hqs : ∀ last ∈ qs.getLast?, isStep last = true)
    (hys : ∀ y ∈ ys, isStep y = false) (hx : isStep x = true) (hzs : ∀ z ∈ zs, isStep z = false) :
    parent? (rooted (qs ++ ys ++ x :: zs)) = some (base qs) := by
  have hxslash : '/' ∉ x.toList := hslash x (by simp)
  have hfront : ∀ name ∈ qs ++ ys, '/' ∉ name.toList := (List.forall_mem_append.1 hslash).1
  have hidle : ∀ y ∈ ys ++ [""], isStep y = false := List.forall_mem_append.2 ⟨hys, by simp [isStep]⟩
  have hroot : x ≠ "/" := fun h => hxslash (h ▸ List.mem_cons_self)
  unfold parent?
  rw [getLast?_components_of_split hslash hx hzs]
  split
  · next h => cases h
  · next h => exact absurd (Option.some.inj h) hroot
  · -- what is left without the name ends in a slash, and is trimmed once more
    change some (String.ofList (trimmed (_ : List Char))) = _
    rw [trimmed_of_split hslash hx hzs, dropWhile_rooted hxslash,
      trimmed_rooted (by simp) (List.forall_mem_append.2 ⟨hfront, by simp⟩),
      List.append_assoc, rdropWhile_append hqs hidle, String.ofList_toList]

/-- A path lies below the folder that it is found to be in. -/
private theorem below_of_split (hx : isStep x = true) : Below (base qs) (rooted (qs ++ ys ++ x :: zs)) := by
  refine (below_rooted_iff (isAbsolute_base qs) hslash).2
    ⟨qs, ys ++ x :: zs, List.append_assoc .., ?_, spells_base qs⟩
  rw [List.filter_append, List.filter_cons_of_pos hx]
  exact List.append_ne_nil_of_right_ne_nil _ (List.cons_ne_nil _ _)

/-- A path lies below that folder, in whatever spelling, and those that this one lies below. -/
private theorem below_base_of_split (hqs : ∀ last ∈ qs.getLast?, isStep last = true)
    (hys : ∀ y ∈ ys, isStep y = false) (hzs : ∀ z ∈ zs, isStep z = false) (hp : isAbsolute p = true)
    (h : Below p (rooted (qs ++ ys ++ x :: zs))) :
    steps p = steps (base qs) ∧ (base qs).toList <+: p.toList ∨ Below p (base qs) := by
  obtain ⟨front, back, hsplit, hback, hspells⟩ := (below_rooted_iff hp hslash).1 h
  have hslash' : ∀ name ∈ qs ++ ys, '/' ∉ name.toList := (List.forall_mem_append.1 hslash).1
  -- the last step is not among the names of the other path
  obtain ⟨cs, hcs⟩ : ∃ cs, qs ++ ys = front ++ cs := by
    rcases List.append_eq_append_iff.1 hsplit with ⟨as, hfront, has⟩ | ⟨cs, hcs, -⟩
    · cases as with
      | nil => exact ⟨[], by simpa using hfront.symm⟩
      | cons a as =>
        refine absurd (List.filter_eq_nil_iff.2 fun b hb => ?_) hback
        simp [hzs b (by simp [(List.cons.inj has).2, hb])]
    · exact ⟨cs, hcs⟩
  -- with only idle pieces behind the names of the folder, that path is one to the folder itself
  have hsame (as : List String) (hfront : front = qs ++ as) (has : ∀ a ∈ as, isStep a = false) :
      steps p = steps (base qs) ∧ (base qs).toList <+: p.toList := by
    subst hfront
    have hnames : ∀ name ∈ qs ++ as, '/' ∉ name.toList := fun name hname =>
      hslash' name (hcs ▸ List.mem_append_left cs hname)
    refine ⟨?_, hspells.prefix_base⟩
    rw [hspells.steps_eq hnames, (spells_base qs).steps_eq (List.forall_mem_append.1 hnames).1,
      List.filter_append, filter_isStep_of_idle has, List.append_nil]
  rcases List.append_eq_append_iff.1 hcs with ⟨as, hfront, hys'⟩ | ⟨ds, hds, -⟩
  · exact .inl (hsame as hfront fun a ha => hys a (hys' ▸ List.mem_append_left _ ha))
  · by_cases hempty : ds = []
    · exact .inl (hsame [] (by simp [hds, hempty]) (by simp))
    · right
      rw [base_of_ne_nil (by simp [hds, hempty])]
      refine (below_rooted_iff hp (List.forall_mem_append.1 hslash').1).2 ⟨front, ds, hds, ?_, hspells⟩
      have hlast : isStep (ds.getLast hempty) = true := by
        refine hqs _ ?_
        rw [hds, List.getLast?_append_of_ne_nil _ hempty, List.getLast?_eq_some_getLast hempty]
        rfl
      exact List.ne_nil_of_mem (List.mem_filter.2 ⟨List.getLast_mem hempty, hlast⟩)

end Split

/-- **A path lies in the folder that its last name is taken away from**, and below that folder's
other spellings and the folders that it lies below itself. -/
theorem parent?_cases (h : isAbsolute path = true) :
    steps path = [] ∧ parent? path = none ∨
      ∃ q x, parent? path = some q ∧ isAbsolute q = true ∧ steps path = steps q ++ [x] ∧ Below q path ∧
        ∀ p, isAbsolute p = true → Below p path →
          steps p = steps q ∧ q.toList <+: p.toList ∨ Below p q := by
  obtain ⟨names, rfl, hslash⟩ := exists_rooted h
  obtain ⟨qs', zs, rfl, hqs', hzs⟩ := exists_steps_append names
  -- without a step the path is one to the root, which lies in nothing; otherwise the last step is the name
  -- that is taken away, and the steps before it are the folder's
  rcases List.eq_nil_or_concat' qs' with rfl | ⟨front, x, rfl⟩
  · left
    have hsteps : steps (rooted ([] ++ zs)) = [] := by
      rw [steps_rooted hslash]
      exact filter_isStep_of_idle hzs
    refine ⟨hsteps, ?_⟩
    rw [parent?, components_eq_cons_steps h, hsteps]
    rfl
  · right
    have hx : isStep x = true := hqs' x (by simp)
    obtain ⟨qs, ys, rfl, hqs, hys⟩ := exists_steps_append front
    rw [List.append_assoc _ [x], List.singleton_append] at hslash ⊢
    refine ⟨base qs, x, parent?_of_split hslash hqs hys hx hzs, isAbsolute_base qs, ?_,
      below_of_split hslash hx, fun p => below_base_of_split hslash hqs hys hzs⟩
    have hnames : ∀ name ∈ qs, '/' ∉ name.toList := fun name hname => hslash name (by simp [hname])
    calc steps (rooted (qs ++ ys ++ x :: zs))
      _ = qs.filter isStep ++ ys.filter isStep ++ x :: zs.filter isStep := by
        rw [steps_rooted hslash, List.filter_append, List.filter_append, List.filter_cons_of_pos hx]
      _ = qs.filter isStep ++ [x] := by
        rw [filter_isStep_of_idle hys, filter_isStep_of_idle hzs, List.append_nil]
      _ = steps (base qs) ++ [x] := by
        rw [(spells_base qs).steps_eq hnames]

/-! ### The folders that a path lies in -/

/-- **A path from the root is or lies below another one.** -/
def Within (p path : String) : Prop := isAbsolute p = true ∧ (p = path ∨ Below p path)

theorem Within.isAbsolute (h : Within p path) : Files.isAbsolute path = true := by
  obtain ⟨hp, rfl | hbelow⟩ := h
  · exact hp
  · exact hbelow.isAbsolute hp

theorem Within.prefix_steps (h : Within p path) : steps p <+: steps path := by
  obtain ⟨-, rfl | hbelow⟩ := h
  · exact List.prefix_rfl
  · obtain ⟨s, -, hs⟩ := hbelow.steps
    exact ⟨s, hs.symm⟩

theorem Within.isPrefix (h : Within p path) : p.toList <+: path.toList := by
  obtain ⟨-, rfl | ⟨more, rfl, -, -⟩⟩ := h
  · exact List.prefix_rfl
  · rw [String.toList_append]
    exact List.prefix_append _ _

/-- **A path lies below each of its first steps**, in some spelling. -/
theorem exists_within (h : isAbsolute path = true) {s : List String} (hs : s <+: steps path) :
    ∃ p, Within p path ∧ steps p = s := by
  obtain ⟨names, rfl, hslash⟩ := exists_rooted h
  obtain ⟨s', happend⟩ := hs
  rw [steps_rooted hslash] at happend
  obtain ⟨front, back, rfl, hfront, hback⟩ := List.filter_eq_append_iff.1 happend.symm
  have hsteps : steps (base front) = s := by
    rw [(spells_base front).steps_eq (List.forall_mem_append.1 hslash).1, hfront]
  -- with nothing left of the steps the path itself will do, in whatever spelling it stands
  by_cases hempty : s' = []
  · refine ⟨_, ⟨h, .inl rfl⟩, ?_⟩
    rw [steps_rooted hslash, ← happend, hempty, List.append_nil]
  · refine ⟨base front, ⟨isAbsolute_base front, .inr ?_⟩, hsteps⟩
    exact (below_rooted_iff (isAbsolute_base front) hslash).2
      ⟨front, back, rfl, hback ▸ hempty, spells_base front⟩

/-- **What is found of the folders of some kind** that a path is or lies in: one with all steps of the
others, or none if there is none. -/
def Innermost (kind : String → Bool) (path : String) : Option String → Prop
  | some r => kind r = true ∧ Within r path ∧ ∀ p, Within p path → kind p = true → steps p <+: steps r
  | none => ∀ p, Within p path → kind p = false

variable {kind : String → Bool}

theorem innermost_self (hpath : isAbsolute path = true) (h : kind path = true) :
    Innermost kind path (some path) :=
  ⟨h, ⟨hpath, .inl rfl⟩, fun _ hp _ => hp.prefix_steps⟩

/-- **Looking for the first folder of a kind** among the path and what it lies in. -/
private theorem innermost_cons (h : kind path = false) {rest : List String}
    (hrest : Innermost kind path (rest.find? kind)) :
    Innermost kind path ((path :: rest).find? kind) := by
  rwa [List.find?_cons_of_neg (by simp [h])]

/-- The root lies in no folder. -/
private theorem innermost_none (h : kind path = false) (hsteps : steps path = []) :
    Innermost kind path none := by
  rintro p ⟨-, rfl | hbelow⟩
  · exact h
  · obtain ⟨s, hs, happend⟩ := hbelow.steps
    exact absurd (List.append_eq_nil_iff.1 (happend.symm.trans hsteps)).2 hs

/-- What is found for the folder that a path lies in is found for the path, if it is of another kind
itself. -/
private theorem innermost_parent (h : kind path = false) (hq : isAbsolute q = true) (hbelow : Below q path)
    (hfolders : ∀ p, isAbsolute p = true → Below p path →
      steps p = steps q ∧ q.toList <+: p.toList ∨ Below p q)
    (hkind : ∀ p, isAbsolute p = true → steps p = steps q → q.toList <+: p.toList → kind p = true →
      kind q = true) {result : Option String} (hresult : Innermost kind q result) :
    Innermost kind path result := by
  -- another folder of that kind is in the one that the path lies in
  have hwithin (p : String) (hp : Within p path) (hof : kind p = true) :
      ∃ p', Within p' q ∧ kind p' = true ∧ steps p' = steps p := by
    obtain ⟨hpabs, rfl | hp⟩ := hp
    · exact absurd (hof.symm.trans h) Bool.true_eq_false_eq_False.elim
    · rcases hfolders p hpabs hp with ⟨hsteps, hpre⟩ | hp
      · exact ⟨q, ⟨hq, .inl rfl⟩, hkind p hpabs hsteps hpre hof, hsteps.symm⟩
      · exact ⟨p, ⟨hpabs, .inr hp⟩, hof, rfl⟩
  cases result with
  | some r =>
    obtain ⟨hr, ⟨hrabs, hrq⟩, hlongest⟩ := hresult
    refine ⟨hr, ⟨hrabs, .inr ?_⟩, fun p hp hof => ?_⟩
    · rcases hrq with rfl | hrq
      · exact hbelow
      · exact hrq.trans hbelow
    · obtain ⟨p', hp', hof', hsteps⟩ := hwithin p hp hof
      exact hsteps ▸ hlongest p' hp' hof'
  | none =>
    intro p hp
    rw [Bool.eq_false_iff]
    intro hof
    obtain ⟨p', hp', hof', -⟩ := hwithin p hp hof
    exact absurd hof' (Bool.eq_false_iff.1 (hresult p' hp'))

/-- **The first folder of some kind that a path lies in** is the innermost one, if a shorter spelling of
a folder of that kind is of that kind too. -/
theorem innermost_find?_ancestors (hpath : isAbsolute path = true)
    (hkind : ∀ p q, isAbsolute p = true → isAbsolute q = true → steps p = steps q →
      q.toList <+: p.toList → kind p = true → kind q = true) :
    Innermost kind path ((ancestors path).find? kind) := by
  -- by induction on a bound of the number of steps: the folder that a path lies in has one step less
  have hupTo (n : Nat) (hn : (steps path).length ≤ n) :
      Innermost kind path ((ancestorsUpTo n path).find? kind) := by
    induction n generalizing path with
    | zero =>
      have hsteps : steps path = [] := List.length_eq_zero_iff.1 (Nat.le_zero.1 hn)
      cases h : kind path with
      | true => simpa [ancestorsUpTo, h] using innermost_self hpath h
      | false => exact innermost_cons h (innermost_none h hsteps)
    | succ n ih =>
      rcases parent?_cases hpath with ⟨hsteps, hparent⟩ | ⟨q, x, hparent, hq, hsteps, hbelow, hfolders⟩
      · cases h : kind path with
        | true => simpa [ancestorsUpTo, hparent, h] using innermost_self hpath h
        | false =>
          rw [ancestorsUpTo, hparent]
          exact innermost_cons h (innermost_none h hsteps)
      · rw [ancestorsUpTo, hparent]
        cases h : kind path with
        | true => simpa [h] using innermost_self hpath h
        | false =>
          rw [hsteps, List.length_append, List.length_singleton] at hn
          refine innermost_cons h (innermost_parent h hq hbelow hfolders
            (fun p hp => hkind p q hp hq) (ih hq (by omega)))
  refine hupTo _ ?_
  rw [components_eq_cons_steps hpath, List.length_cons]
  exact Nat.le_succ _

/-! ### Files in a folder -/

namespace Tree

variable {t : Tree} {v w : List String}

/-- Nothing is found behind what is no folder. -/
private theorem follow_of_ne_folder (h : t.get? v ≠ some .folder) (hne : names ≠ []) :
    t.follow v names = .error .notFolder := by
  obtain ⟨name, names, rfl⟩ := List.exists_cons_of_ne_nil hne
  rw [follow, if_pos (by simpa using h)]

/-- Pieces that say nothing are passed over on the way to a name. -/
theorem follow_filter_isStep (name : String) :
    t.follow v (names.filter isStep ++ [name]) = t.follow v (names ++ [name]) := by
  induction names generalizing v with
  | nil => rfl
  | cons n names ih =>
    by_cases hn : isStep n = true
    · rw [List.filter_cons_of_pos hn, List.cons_append, List.cons_append, follow, follow]
      simp only [ih]
    · rw [List.filter_cons_of_neg hn, List.cons_append]
      by_cases hfolder : t.get? v = some .folder
      · rw [ih, follow.eq_def t v (n :: _)]
        simp [hfolder, hn]
      · rw [follow_of_ne_folder hfolder (by simp), follow_of_ne_folder hfolder (by simp)]

/-- **A file by some name** is at the end of the steps to a folder, if none of these has a character that
no name may have. -/
def HasFile (t : Tree) (names : List String) (name : String) : Prop :=
  (∀ n ∈ names, '\x00' ∉ n.toList) ∧
    ∃ w c, t.follow [] (names ++ [name]) = .ok w ∧ t.get? w = some (.file c)

section

variable (hp : isAbsolute p = true) (hname : Plain name)
include hp hname

/-- A name that is joined to a path from the root stands behind a slash. -/
private theorem join_of_plain :
    join p name = if p.endsWith "/" then p ++ name else p ++ "/" ++ name := by
  have hempty : p.isEmpty = false := by
    obtain ⟨cs, hcs⟩ := isAbsolute_iff.1 hp
    rw [Bool.eq_false_iff, Ne, String.isEmpty_iff]
    rintro rfl
    exact nomatch hcs
  rw [join, isAbsolute_eq_false hname.2, hempty]
  rfl

/-- The name is the last piece then, and the steps of the path come before it. -/
private theorem exists_pieces_join :
    ∃ front, pieces (join p name) = front ++ [name] ∧ front.filter isStep = steps p := by
  rw [join_of_plain hp hname]
  split
  · -- a slash that is there already leaves an empty piece between the two, and that is no step
    next hends =>
    obtain ⟨front, back, hpieces, hfront, hback⟩ := pieces_append name (.inl hends)
    have hone : back = [name] := by
      rw [pieces_of_not_mem hname.2] at hback
      rcases hback with hback | hback
      · exact hback.symm
      · exact absurd (List.cons.inj hback).1 hname.1
    refine ⟨front, hone ▸ hpieces, ?_⟩
    have hnone : isStep "" = false := rfl
    rcases hfront with hfront | hfront <;> simp [steps, hfront, hnone]
  · refine ⟨pieces p, ?_, rfl⟩
    rw [pieces_append_slash, pieces_of_not_mem hname.2]

/-- A character that no name may have stands in a step, if it does anywhere. -/
private theorem zero_mem_join_iff (hzero : '\x00' ∉ name.toList) :
    '\x00' ∈ (join p name).toList ↔ ∃ n ∈ steps p, '\x00' ∈ n.toList := by
  have hjoin : '\x00' ∈ (join p name).toList ↔ '\x00' ∈ p.toList := by
    rw [join_of_plain hp hname]
    split <;> simp [hzero]
  have hsteps (n : String) (h : '\x00' ∈ n.toList) : isStep n = true := by
    by_contra hidle
    rcases isStep_eq_false_iff.1 (by simpa using hidle) with rfl | rfl <;> simp at h
  -- a path is a slash before each of its pieces, so what is in it and no slash is in one of them
  rw [hjoin, steps, pieces_of_isAbsolute hp, List.filter_cons_of_neg (by decide)]
  conv => lhs; rw [← rooted_tail_pieces hp, toList_rooted]
  simp only [List.mem_flatMap, List.mem_cons, List.mem_filter]
  constructor
  · rintro ⟨n, hn, hslash | hmem⟩
    · exact absurd hslash (by decide)
    · exact ⟨n, ⟨hn, hsteps n hmem⟩, hmem⟩
  · rintro ⟨n, ⟨hn, -⟩, hmem⟩
    exact ⟨n, hn, .inr hmem⟩

/-- **Whether there is a file by some name in a folder** hangs on the steps of the path to the folder, and
on how long the path to the file is. -/
theorem isFile_join_iff (hzero : '\x00' ∉ name.toList) :
    t.isFile (join p name) = true ↔
      t.HasFile (steps p) name ∧ (join p name).utf8ByteSize ≤ maxPath := by
  obtain ⟨front, hpieces, hfront⟩ := exists_pieces_join hp hname
  have hfollow : t.follow [] (pieces (join p name)) = t.follow [] (steps p ++ [name]) := by
    rw [hpieces, ← hfront, follow_filter_isStep]
  have hne : join p name ≠ "" := by
    intro h
    have hempty : pieces (join p name) = [] ++ [""] := by rw [h]; rfl
    exact hname.1 (by simpa using (List.append_inj_right' (hempty.symm.trans hpieces) rfl).symm)
  -- the idle pieces do not change where a path leads; they count only for its length
  have hchars := zero_mem_join_iff hp hname hzero
  simp only [isFile_iff, way_eq_ok_iff, pathFault?_eq_none_iff, hfollow, HasFile]
  constructor
  · rintro ⟨w, ⟨⟨-, hnone, hsize⟩, hw⟩, c, hc⟩
    exact ⟨⟨fun n hn hmem => hnone (hchars.2 ⟨n, hn, hmem⟩), w, c, hw, hc⟩, hsize⟩
  · rintro ⟨⟨hnone, w, c, hw, hc⟩, hsize⟩
    refine ⟨w, ⟨⟨hne, fun hmem => ?_, hsize⟩, hw⟩, c, hc⟩
    obtain ⟨n, hn, h⟩ := hchars.1 hmem
    exact hnone n hn h

/-- The path to a file in a folder is no longer for a shorter spelling of the folder. -/
theorem utf8ByteSize_join_le (hq : isAbsolute q = true) (h : q.toList <+: p.toList) :
    (join q name).utf8ByteSize ≤ (join p name).utf8ByteSize := by
  obtain ⟨rest, hrest⟩ := h
  have hp' : p = q ++ String.ofList rest := String.toList_inj.1 (by simp [hrest])
  by_cases hempty : rest = []
  · subst hempty
    simp [hp']
  · have hpos : (String.ofList rest).utf8ByteSize ≠ 0 := by
      rwa [Ne, String.utf8ByteSize_eq_zero_iff, ← String.toList_eq_nil_iff, String.toList_ofList]
    have hsize : p.utf8ByteSize = q.utf8ByteSize + (String.ofList rest).utf8ByteSize := by
      rw [hp', String.utf8ByteSize_append]
    have hslash : "/".utf8ByteSize = 1 := rfl
    rw [join_of_plain hp hname, join_of_plain hq hname]
    -- a path that is longer has room for the slash that joining puts behind the shorter one
    split <;> split <;> simp only [String.utf8ByteSize_append] <;> omega

end

end Tree

end EnvSchema.Files
