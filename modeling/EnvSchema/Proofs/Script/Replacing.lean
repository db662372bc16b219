import EnvSchema.Proofs.Script.Places

/-!
# What is read where a phrase is replaced

A phrase reads a variable by its form and by the texts of its parts. So another phrase in the place of
one within it makes no difference to the phrases around, if neither of the two has such a text.

* `Node.Reads` — a phrase reads a variable, at any depth;
* `Node.IsMute` — a phrase that says nothing to the one around it;
* `Node.reads_replaceAt` — **what is read stays the same**, if it does in the place that changes;
* `Node.importsFrom_replaceAt` — so does what is imported.
-/

namespace EnvSchema.Script.Node

variable {n a b p : Node} {i : Nat} {is place : Place} {x : String}

/-! ### What phrases read -/

/-- **A phrase reads a variable**, or a phrase within it does. -/
def Reads (n : Node) (x : String) : Prop := ∃ p ∈ n.nodes, p.envName? = some x

/-- What is read is read by the phrase or by one of its parts. -/
theorem reads_iff : n.Reads x ↔ n.envName? = some x ∨ ∃ p ∈ n.parts, p.Reads x := by
  constructor
  · rintro ⟨p, hp, hx⟩
    rcases mem_nodes_iff.1 hp with rfl | ⟨q, hq, hpq⟩
    · exact .inl hx
    · exact .inr ⟨q, hq, p, hpq, hx⟩
  · rintro (hx | ⟨q, hq, p, hpq, hx⟩)
    · exact ⟨n, mem_nodes_iff.2 (.inl rfl), hx⟩
    · exact ⟨p, mem_nodes_iff.2 (.inr ⟨q, hq, hpq⟩), hx⟩

/-! ### Phrases that say nothing to the one around -/

/-- **A phrase that says nothing to the one around it**: it is not the environment, not the name of a
member, and no text of a key. -/
structure IsMute (n : Node) : Prop where
  isEnvironment : n.isEnvironment = false
  memberName? : Node.memberName? n = none
  keyText? : n.keyText? = none

/-- Such a phrase is no word, for a word is the text of a key. -/
private theorem ne_ident_of_isMute {s : Span} {name : String} {isOptional : Bool} (h : p.IsMute) :
    p ≠ mk s (.ident name isOptional) := by
  rintro rfl
  exact nomatch h.keyText?

/-- Nor is it a text between quotes. -/
private theorem ne_string_of_isMute {s : Span} {value raw : String} (h : p.IsMute) :
    p ≠ mk s (.string value raw) := by
  rintro rfl
  exact nomatch h.keyText?

/-- A phrase with such a part is not the environment: the parts of that are words. -/
private theorem IsMute.isEnvironment_around (h : p.IsMute) (hp : p ∈ n.parts) :
    n.isEnvironment = false := by
  obtain ⟨s, f⟩ := n
  change p ∈ f.parts at hp
  unfold Node.isEnvironment
  split
  · next u object isOptional v key isOptional' hform =>
    obtain rfl : f = _ := hform
    rcases List.mem_cons.1 hp with hp | hp
    · exact absurd hp (ne_ident_of_isMute h)
    · exact absurd (List.mem_singleton.1 hp) (ne_ident_of_isMute h)
  · rfl

/-- It is not the name of a member: that has no parts, or a text as its only one. -/
private theorem IsMute.memberName?_around (h : p.IsMute) (hp : p ∈ n.parts) :
    Node.memberName? n = none := by
  obtain ⟨s, f⟩ := n
  change p ∈ f.parts at hp
  unfold Node.memberName?
  split
  · next hform =>
    obtain rfl : f = _ := hform
    exact nomatch hp
  · next hform =>
    obtain rfl : f = _ := hform
    exact absurd (List.mem_singleton.1 hp) (ne_string_of_isMute h)
  · rfl

/-- It is no text of a key, for that has no parts. -/
private theorem keyText?_around (hp : p ∈ n.parts) : n.keyText? = none := by
  obtain ⟨s, f⟩ := n
  change p ∈ f.parts at hp
  unfold Node.keyText?
  split
  · next hform =>
    obtain rfl : f = _ := hform
    exact nomatch hp
  · next hform =>
    obtain rfl : f = _ := hform
    exact nomatch hp
  · rfl

/-- It reads no variable itself: a member of the environment is looked up by its name. -/
private theorem IsMute.envName?_around (h : p.IsMute) (hp : p ∈ n.parts) : n.envName? = none := by
  obtain ⟨s, f⟩ := n
  change p ∈ f.parts at hp
  unfold envName?
  split
  · next object key hform =>
    obtain rfl : f = _ := hform
    rcases List.mem_cons.1 hp with rfl | hp
    · rw [h.isEnvironment]
      rfl
    · obtain rfl := List.mem_singleton.1 hp
      rw [h.memberName?]
      exact ite_self _
  · rfl

/-- **Around such a phrase there is another one**, and it reads no variable itself. -/
theorem IsMute.around (h : p.IsMute) (hp : p ∈ n.parts) : n.IsMute ∧ n.envName? = none :=
  ⟨⟨h.isEnvironment_around hp, h.memberName?_around hp, keyText?_around hp⟩, h.envName?_around hp⟩

/-- A phrase at whose place there is such a one is such a one. -/
theorem IsMute.of_at? (h : n.at? place = some a) (ha : a.IsMute) : n.IsMute := by
  -- by induction on the way to the place, from within
  induction place generalizing n with
  | nil =>
    cases h
    exact ha
  | cons i is ih =>
    obtain ⟨p, hp, h⟩ := at?_cons_eq_some_iff.1 h
    exact ((ih h).around (List.mem_of_getElem? hp)).1

/-! ### Replacing -/

/-- What is asked of all elements of a list is answered as before, if another element that answers the
same takes the place of one. -/
theorem map_set_eq {α β : Type} {f : α → β} {l : List α} {a b : α} (h : l[i]? = some a)
    (hab : f b = f a) : (l.set i b).map f = l.map f := by
  -- by induction on the list, down to the element in question
  induction l generalizing i with
  | nil => rfl
  | cons d l ih =>
    cases i with
    | zero =>
      cases h
      rw [List.set_cons_zero, List.map_cons, List.map_cons, hab]
    | succ i => rw [List.set_cons_succ, List.map_cons, List.map_cons, ih h]

/-- **What is read stays the same** if it does in the place that changes. -/
theorem reads_replaceAt (h : n.at? place = some a) (ha : a.IsMute) (hb : b.IsMute)
    (hreads : b.Reads x ↔ a.Reads x) : (n.replaceAt place b).Reads x ↔ n.Reads x := by
  induction place generalizing n with
  | nil =>
    cases h
    exact hreads
  | cons i is ih =>
    obtain ⟨p, hp, hat⟩ := at?_cons_eq_some_iff.1 h
    obtain ⟨hi, -⟩ := List.getElem?_eq_some_iff.1 hp
    have hmem : p.replaceAt is b ∈ (n.replaceAt (i :: is) b).parts := by
      rw [parts_replaceAt_cons hp]
      exact List.mem_of_getElem? (List.getElem?_set_self hi)
    -- neither phrase reads anything itself, so it comes down to the parts
    have hnone := ((IsMute.of_at? hat ha).around (List.mem_of_getElem? hp)).2
    have hnone' := ((IsMute.of_at? (at?_replaceAt hat b) hb).around hmem).2
    have hmap : (n.parts.set i (p.replaceAt is b)).map (Reads · x) = n.parts.map (Reads · x) :=
      map_set_eq hp (propext (ih hat))
    have hexists (l : List Node) : (∃ q ∈ l, q.Reads x) ↔ ∃ r ∈ l.map (Reads · x), r := by
      constructor
      · rintro ⟨q, hq, hx⟩
        exact ⟨_, List.mem_map_of_mem hq, hx⟩
      · rintro ⟨r, hr, hx⟩
        obtain ⟨q, hq, rfl⟩ := List.mem_map.1 hr
        exact ⟨q, hq, hx⟩
    rw [reads_iff, reads_iff (n := n), hnone, hnone', parts_replaceAt_cons hp, hexists, hmap, ← hexists]

/-! ### Imports -/

/-- Whether a phrase is a text that is the given one. -/
def isText (text : String) (n : Node) : Bool :=
  match n.form with
  | .string value _ => value == text
  | _ => false

/-- Whether a phrase imports another module. -/
def importsFrom (library : String) (n : Node) : Bool :=
  match n.form with
  | .importDecl _ _ _ source => source.isText library
  | _ => false

/-- A phrase that says nothing to the one around it is no text. -/
theorem IsMute.isText (h : n.IsMute) (text : String) : n.isText text = false := by
  unfold Node.isText
  split
  · next hform =>
    have hkey := h.keyText?
    rw [Node.keyText?, hform] at hkey
    exact nomatch hkey
  · rfl

/-- A refilled import imports what it did, if its texts are the ones that they were. -/
private theorem importsFrom_refill {s : Span} {ps : List Node} {library : String}
    (h : ps.map (isText library) = n.parts.map (isText library)) :
    (mk s (n.form.refill ps)).importsFrom library = n.importsFrom library := by
  obtain ⟨t, f⟩ := n
  -- only an import hangs on a part, which is its last one
  cases f
  case importDecl isTyped isDeferred specifiers source =>
    have hparts : (mk t (.importDecl isTyped isDeferred specifiers source)).parts =
        specifiers ++ [source] := rfl
    rw [hparts, List.map_append] at h
    obtain ⟨ps₁, ps₂, rfl, hspecifiers, hsource⟩ := List.map_eq_append_iff.1 h
    obtain ⟨q, qs, rfl, hq, hqs⟩ := List.map_eq_cons_iff.1 hsource
    obtain ⟨taken, htake, -⟩ := Form.takes_many specifiers ps₁ (q :: qs) (by
      simpa using congrArg List.length hspecifiers)
    change (mk s (.importDecl isTyped isDeferred (Form.many specifiers (ps₁ ++ q :: qs)).1
      (Form.one source (Form.many specifiers (ps₁ ++ q :: qs)).2).1)).importsFrom library = _
    rw [htake]
    exact hq
  all_goals rfl

/-- **What is imported stays the same** where phrases are replaced that say nothing to those around. -/
theorem importsFrom_replaceAt {library : String} (h : n.at? place = some a) (ha : a.IsMute)
    (hb : b.IsMute) (himports : b.importsFrom library = a.importsFrom library) :
    (n.replaceAt place b).importsFrom library = n.importsFrom library := by
  cases place with
  | nil =>
    cases h
    exact himports
  | cons i is =>
    obtain ⟨p, hp, hat⟩ := at?_cons_eq_some_iff.1 h
    have hmute := (IsMute.of_at? hat ha).isText library
    have hmute' := (IsMute.of_at? (at?_replaceAt hat b) hb).isText library
    rw [replaceAt_cons hp]
    -- neither of the two parts is a text
    exact importsFrom_refill (map_set_eq hp (hmute'.trans hmute.symm))

end EnvSchema.Script.Node
