import EnvSchema.Proofs.Script.Change

/-!
# Properties and the objects that they stand in

A key is declared by a property of an object. The tree of a script could hold a property anywhere,
but what stands for a script holds properties in objects only.

* `Node.isProperty`, `Node.isObject` — the properties of objects, and objects;
* `Node.Tidy` — a phrase within which properties stand in objects only; `Node.Apt` — one that is no
  property itself; `Node.AllApt`, `Node.MaybeApt`, `Node.ElemsApt` — several of them;
* `Node.apt_of_parts`, `Node.apt_object`, `Node.Tidy.parts` — such phrases are made of such parts;
* `Node.IsKeyed` — a property whose key is a word or a string, or a word alone;
* `Module.mem_keys_iff_of_apt` — where properties stand in objects only, the keys of a module are those
  of the properties of its objects.
-/

namespace EnvSchema.Script

/-- **Whether a form is one of the properties of objects.** What is spread in an object is none: it
may stand in other places. -/
def Form.isProperty : Form Node → Bool
  | .shorthand _ | .keyValue .. | .assignProperty .. | .getterProperty .. | .setterProperty ..
  | .methodProperty .. => true
  | _ => false

/-- Whether a form is the one of objects. -/
def Form.isObject : Form Node → Bool
  | .object _ => true
  | _ => false

namespace Node

/-- Whether a phrase is a property of an object. -/
def isProperty (n : Node) : Bool := n.form.isProperty

/-- Whether a phrase is an object. -/
def isObject (n : Node) : Bool := n.form.isObject

/-- **A phrase within which properties stand in objects only.** -/
inductive Tidy : Node → Prop
  | intro {n : Node} (parts : ∀ p ∈ n.parts, p.Tidy)
      (places : n.isObject = true ∨ ∀ p ∈ n.parts, p.isProperty = false) : Tidy n

/-- **A phrase that may stand outside of objects**: it is no property, and within it properties stand
in objects only. -/
structure Apt (n : Node) : Prop where
  tidy : n.Tidy
  isProperty : n.isProperty = false

/-- Phrases all of which may stand outside of objects. -/
def AllApt (l : List Node) : Prop := ∀ n ∈ l, n.Apt

/-- A phrase that may stand outside of objects, if there is one. -/
def MaybeApt (o : Option Node) : Prop := ∀ n ∈ o, n.Apt

/-- Elements of an array, all of which may stand outside of objects. -/
def ElemsApt (l : List (Option Node)) : Prop := ∀ o ∈ l, MaybeApt o

variable {n p : Node} {s : Span} {f : Form Node} {l l' : List Node} {o : Option Node}
  {elems : List (Option Node)}

@[simp] theorem allApt_nil : AllApt [] := fun _ h => absurd h List.not_mem_nil

@[simp] theorem allApt_cons : AllApt (n :: l) ↔ n.Apt ∧ AllApt l := List.forall_mem_cons

@[simp] theorem allApt_append : AllApt (l ++ l') ↔ AllApt l ∧ AllApt l' := List.forall_mem_append

@[simp] theorem maybeApt_none : MaybeApt none := fun _ h => nomatch h

@[simp] theorem maybeApt_some : MaybeApt (some n) ↔ n.Apt :=
  ⟨fun h => h n rfl, fun h _ hp => Option.some.inj hp ▸ h⟩

/-- One more phrase behind others. -/
theorem AllApt.append_singleton (h : AllApt l) (hn : n.Apt) : AllApt (l ++ [n]) :=
  allApt_append.2 ⟨h, allApt_cons.2 ⟨hn, allApt_nil⟩⟩

@[simp] theorem allApt_toList : AllApt o.toList ↔ MaybeApt o := by
  cases o <;> simp

@[simp] theorem elemsApt_nil : ElemsApt [] := fun _ h => absurd h List.not_mem_nil

@[simp] theorem elemsApt_cons : ElemsApt (o :: elems) ↔ MaybeApt o ∧ ElemsApt elems :=
  List.forall_mem_cons

@[simp] theorem elemsApt_append {elems' : List (Option Node)} :
    ElemsApt (elems ++ elems') ↔ ElemsApt elems ∧ ElemsApt elems' := List.forall_mem_append

/-- One more element behind others. -/
theorem ElemsApt.append_singleton (h : ElemsApt elems) (hn : n.Apt) : ElemsApt (elems ++ [some n]) :=
  elemsApt_append.2 ⟨h, elemsApt_cons.2 ⟨maybeApt_some.2 hn, elemsApt_nil⟩⟩

@[simp] theorem allApt_filterMap : AllApt (elems.filterMap fun o => o) ↔ ElemsApt elems := by
  induction elems with
  | nil => simp
  | cons o elems ih => cases o <;> simp [ih]

@[simp] theorem allApt_filterMap_id : AllApt (elems.filterMap id) ↔ ElemsApt elems := allApt_filterMap

/-! ### Making and taking apart -/

/-- A phrase is tidy if its parts may stand anywhere. -/
theorem tidy_of_parts (h : AllApt f.parts) : (mk s f).Tidy :=
  .intro (fun p hp => (h p hp).tidy) (.inr fun p hp => (h p hp).isProperty)

/-- **A phrase that is no property may stand anywhere if its parts may.** -/
theorem apt_of_parts (hf : f.isProperty = false) (h : AllApt f.parts) : (mk s f).Apt :=
  ⟨tidy_of_parts h, hf⟩

/-- So may a phrase without parts. -/
theorem apt_leaf (hf : f.isProperty = false) (h : f.parts = []) : (mk s f).Apt :=
  apt_of_parts hf (h ▸ allApt_nil)

/-- **An object may stand anywhere**, whether its parts are properties or not. -/
theorem apt_object {props : List Node} (h : ∀ p ∈ props, p.Tidy) : (mk s (.object props)).Apt :=
  ⟨.intro h (.inl rfl), rfl⟩

/-- A phrase that stands for one that is missing may stand anywhere. -/
@[simp] theorem MaybeApt.getD (h : MaybeApt o) : (o.getD default).Apt := by
  cases o with
  | none => exact apt_leaf rfl rfl
  | some n => exact h n rfl

/-- The parts of a phrase are as tidy as it is. -/
theorem Tidy.part (h : n.Tidy) (hp : p ∈ n.parts) : p.Tidy := by
  cases h with
  | intro parts places => exact parts p hp

/-- A property within a tidy phrase stands in an object. -/
theorem Tidy.isObject (h : n.Tidy) (hp : p ∈ n.parts) (hproperty : p.isProperty = true) :
    n.isObject = true := by
  cases h with
  | intro parts places =>
    refine places.resolve_right fun hnone => ?_
    rw [hnone p hp] at hproperty
    exact nomatch hproperty

/-- **The parts of a tidy phrase may stand anywhere**, unless it is an object. -/
theorem Tidy.parts (h : n.Tidy) (hn : n.form = f) (hf : f.isObject = false) :
    AllApt f.parts := by
  intro p hp
  have hpart : p ∈ n.parts := by
    rw [Node.parts, hn]
    exact hp
  refine ⟨h.part hpart, Bool.eq_false_iff.2 fun hproperty => ?_⟩
  have hobject := h.isObject hpart hproperty
  rw [Node.isObject, hn, hf] at hobject
  exact nomatch hobject

/-- **The only part of a tidy phrase** may stand anywhere, unless the phrase is an object. -/
theorem Tidy.onlyPart (h : n.Tidy) (hn : n.form = f) (hf : f.isObject = false)
    (hp : f.parts = [p]) : p.Apt :=
  h.parts hn hf p (hp ▸ List.mem_cons_self)

/-- The parts of a tidy phrase of a known form that is not the one of objects. -/
theorem Tidy.of_mk (h : (mk s f).Tidy) (hf : f.isObject = false) : AllApt f.parts := h.parts rfl hf

/-- **A property with a key that is declared**: its key is a word or a string, or it is a word
alone. -/
inductive IsKeyed (name : String) (n : Node) : Prop
  | word {key value : Node} {isOptional : Bool} (h : n.form = .keyValue key value)
      (hk : key.form = .ident name isOptional) : IsKeyed name n
  | string {key value : Node} {raw : String} (h : n.form = .keyValue key value)
      (hk : key.form = .string name raw) : IsKeyed name n
  | shorthand {id : Node} (h : n.form = .shorthand id) (hid : id.name? = some name) : IsKeyed name n

/-- These are the properties that declare a key. -/
theorem key?_eq_some_iff {name : String} : n.key? = some name ↔ n.IsKeyed name := by
  constructor
  · intro h
    -- the forms of a property one by one: with a key that is a word or a text, or in short
    unfold key? at h
    split at h
    · next key value hn =>
      unfold keyText? at h
      split at h
      · next hk =>
        cases h
        exact .word hn hk
      · next hk =>
        cases h
        exact .string hn hk
      · exact nomatch h
    · next id hn => exact .shorthand hn h
    · exact nomatch h
  · rintro (⟨hn, hk⟩ | ⟨hn, hk⟩ | ⟨hn, hid⟩)
    · rw [key?, hn]
      dsimp only
      rw [keyText?, hk]
    · rw [key?, hn]
      dsimp only
      rw [keyText?, hk]
    · rw [key?, hn]
      exact hid

/-- A key is declared by a property. -/
theorem IsKeyed.isProperty {name : String} (h : n.IsKeyed name) : n.isProperty = true := by
  rcases h with ⟨hn, -⟩ | ⟨hn, -⟩ | ⟨hn, -⟩ <;> rw [Node.isProperty, hn] <;> rfl

/-! ### Phrases within phrases -/

/-- What stands within a phrase is this phrase, or a part of one within it. -/
theorem Within.cases_parent (h : p.Within n) : p = n ∨ ∃ o : Node, o.Within n ∧ p ∈ o.parts := by
  induction h with
  | refl => exact .inl rfl
  | part hq _ ih =>
    rcases ih with rfl | ⟨o, ho, hp⟩
    · exact .inr ⟨_, .refl _, hq⟩
    · exact .inr ⟨o, .part hq ho, hp⟩

/-- The parts of what stands within a phrase stand within it. -/
theorem Within.of_mem_parts {o : Node} (ho : o.Within n) (hp : p ∈ o.parts) : p.Within n := by
  induction ho with
  | refl => exact .part hp (.refl p)
  | part hq _ ih => exact .part hq ih

/-- What stands within a tidy phrase is tidy. -/
theorem Tidy.within (h : n.Tidy) (hp : p.Within n) : p.Tidy := by
  induction hp with
  | refl => exact h
  | part hq _ ih => exact ih (h.part hq)

/-- **Within a phrase that may stand outside of objects, a property is one of an object.** -/
theorem Apt.mem_object (h : n.Apt) (hp : p.Within n) (hproperty : p.isProperty = true) :
    ∃ o : Node, o.Within n ∧ ∃ props, o.form = .object props ∧ p ∈ props := by
  rcases hp.cases_parent with rfl | ⟨o, ho, hp⟩
  · rw [h.isProperty] at hproperty
    exact nomatch hproperty
  · have hobject := (h.tidy.within ho).isObject hp hproperty
    unfold isObject Form.isObject at hobject
    split at hobject
    · next props hform =>
      rw [parts, hform] at hp
      exact ⟨o, ho, props, hform, hp⟩
    · exact nomatch hobject

end Node

namespace Module

variable {m : Module} {name : String}

/-- **Where properties stand in objects only, the keys of a module** are those of the properties of
its objects, wherever these stand. -/
theorem mem_keys_iff_of_apt (h : ∀ item ∈ m.items, item.Apt) :
    name ∈ m.keys ↔ ∃ item ∈ m.items, ∃ o : Node, o.Within item ∧
      ∃ props, o.form = .object props ∧ ∃ p ∈ props, p.IsKeyed name := by
  rw [keys, Names.mem_ofList, List.mem_filterMap]
  constructor
  · rintro ⟨p, hp, hname⟩
    obtain ⟨item, hitem, hp⟩ := List.mem_flatMap.1 hp
    have hkeyed := Node.key?_eq_some_iff.1 hname
    -- a phrase with a key stands among the properties of an object
    obtain ⟨o, ho, props, hform, hp⟩ :=
      (h item hitem).mem_object (Node.mem_nodes_iff_within.1 hp) hkeyed.isProperty
    exact ⟨item, hitem, o, ho, props, hform, p, hp, hkeyed⟩
  · rintro ⟨item, hitem, o, ho, props, hform, p, hp, hkeyed⟩
    have hpart : p ∈ o.parts := by
      rw [Node.parts, hform]
      exact hp
    exact ⟨p, List.mem_flatMap.2 ⟨item, hitem, Node.mem_nodes_iff_within.2 (ho.of_mem_parts hpart)⟩,
      Node.key?_eq_some_iff.2 hkeyed⟩

end Module

end EnvSchema.Script
