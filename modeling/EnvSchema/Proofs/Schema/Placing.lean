import EnvSchema.Proofs.Schema.Keys
import EnvSchema.Proofs.Script.Places
import Mathlib.Data.List.Forall2

/-!
# Where a field is put

A field is put at the end of one object, and nothing else in the module changes. The object is given
to a call of the library that a variable with the name of the server's object is bound to; there may
be several such variables, one within the other.

* `Node.HoldsFields` — a variable whose call is given an object, with the place of that object;
* `Module.FieldsAt` — the place of the object in the module: the first such variable counts, and the
  first object that its call is given;
* `Module.fieldsAt_of_appendField?` — what appending a field does to a module;
* `Module.FieldsAt.append` — the next field is put into the same object;
* `add_places` — **when a field is added, and where**, if the library goes by an identifier.
-/

namespace EnvSchema

open Script (Form IsName Module Node Place Span)

namespace Script.Node

variable {settings : SchemaSettings} {property arg callee n a b : Node} {space : String}

/-! ### Variables with the server's fields -/

/-- **Where an argument holds an object**: it is one, or it spreads one. -/
def objectPlace? (arg : Node) : Option Place :=
  match arg with
  | .mk _ (.object _) => some []
  | .mk _ (.spread (.mk _ (.object _))) => some [0]
  | _ => none

/-- **A variable with the server's fields**: it is bound to a call of a member of the library, and the
call is given an object. The place is that of the first object that it is given. -/
inductive HoldsFields (settings : SchemaSettings) : Node → Place → Prop
  | intro {s t : Span} {pattern callee object key arg : Node} {args : List Node}
      {type types : Option Node} {isOptional isLoose isDefinite : Bool} {k : Nat} {inner : Place}
      (hpattern : pattern.form = .binding settings.object isOptional type)
      (hcallee : callee.form = .member object key)
      (hobject : object.form = .ident settings.space isLoose) (harg : args[k]? = some arg)
      (hinner : arg.objectPlace? = some inner)
      (hbefore : ∀ j < k, ∀ a, args[j]? = some a → a.objectPlace? = none) :
      HoldsFields settings
        (.mk s (.declarator pattern (some (.mk t (.call callee args types))) isDefinite))
        (1 :: (k + 1) :: inner)

/-- A variable has one place for the server's fields at most. -/
theorem HoldsFields.unique {p q : Place} (hp : n.HoldsFields settings p)
    (hq : n.HoldsFields settings q) : p = q := by
  cases hp with
  | @intro _ _ _ _ _ _ _ _ _ _ _ _ _ k inner _ _ _ harg hinner hbefore =>
    cases hq with
    | @intro _ _ _ _ _ _ _ _ _ _ _ _ _ l inner' _ _ _ harg' hinner' hbefore' =>
      -- the first argument that holds an object is meant, so of two different ones one would not be the first
      rcases Nat.lt_trichotomy k l with hlt | rfl | hlt
      · rw [hbefore' k hlt _ harg] at hinner
        exact nomatch hinner
      · cases harg.symm.trans harg'
        cases hinner.symm.trans hinner'
        rfl
      · rw [hbefore l hlt _ harg'] at hinner'
        exact nomatch hinner'

/-- Whether something is looked up in the library. -/
theorem isLibraryMember_iff : isLibraryMember space callee = true ↔
    ∃ object key isLoose, callee.form = .member object key ∧ object.form = .ident space isLoose := by
  unfold isLibraryMember
  split
  · next t name isLoose key hform =>
    rw [hform, beq_iff_eq]
    constructor
    · rintro rfl
      exact ⟨_, _, _, rfl, rfl⟩
    · rintro ⟨object, key', isLoose', h, hobject⟩
      cases h
      cases hobject
      rfl
  · next hnot =>
    refine iff_of_false Bool.false_ne_true ?_
    rintro ⟨⟨t, f⟩, key, isLoose, hform, rfl⟩
    exact hnot _ _ _ _ hform

/-! ### Appending to an object -/

/-- An argument holds no object if nothing can be appended to it. -/
theorem appendToObject?_eq_none_iff : appendToObject? property arg = none ↔ arg.objectPlace? = none := by
  unfold appendToObject? objectPlace?
  split <;> simp

/-- **A property is appended to the object** that an argument holds. -/
theorem appendToObject?_eq_some (h : appendToObject? property arg = some b) :
    ∃ inner s props, arg.objectPlace? = some inner ∧ arg.at? inner = some (.mk s (.object props)) ∧
      b = arg.replaceAt inner (.mk s (.object (props ++ [property]))) := by
  unfold appendToObject? at h
  split at h
  · next s props =>
    cases h
    exact ⟨[], s, props, rfl, rfl, rfl⟩
  · next s t props =>
    cases h
    exact ⟨[0], t, props, rfl, rfl, rfl⟩
  · exact nomatch h

/-- A call with other arguments, as many as it had. -/
private theorem refill_call {args args' : List Node} {types : Option Node}
    (h : args'.length = args.length) :
    (Form.call callee args types).refill (callee :: (args' ++ types.toList)) =
      .call callee args' types := by
  obtain ⟨taken, htake, rfl⟩ := Form.takes_many args args' types.toList h
  have hopt : (Form.opt types types.toList).1 = types := by cases types <;> rfl
  change Form.call callee (Form.many args (taken ++ types.toList)).1
    (Form.opt types (Form.many args (taken ++ types.toList)).2).1 = _
  rw [htake, hopt]

/-- **What is put at a place within an argument** of the call that a variable is bound to. -/
theorem replaceAt_argument {s t : Span} {pattern arg : Node} {args : List Node} {types : Option Node}
    {isDefinite : Bool} {k : Nat} (harg : args[k]? = some arg) (inner : Place) (new : Node) :
    (mk s (.declarator pattern (some (.mk t (.call callee args types))) isDefinite)).replaceAt
        (1 :: (k + 1) :: inner) new =
      mk s (.declarator pattern (some (.mk t (.call callee (args.set k (arg.replaceAt inner new))
        types))) isDefinite) := by
  obtain ⟨hk, -⟩ := List.getElem?_eq_some_iff.1 harg
  have hpart : (mk t (.call callee args types)).parts[k + 1]? = some arg := by
    change (args ++ types.toList)[k]? = some arg
    rw [List.getElem?_append_left hk]
    exact harg
  -- the call gets another argument first, and then the variable gets another call
  have hcall : (mk t (.call callee args types)).replaceAt ((k + 1) :: inner) new =
      mk t (.call callee (args.set k (arg.replaceAt inner new)) types) := by
    rw [replaceAt_cons hpart]
    change mk t ((Form.call callee args types).refill
      (callee :: (args ++ types.toList).set k (arg.replaceAt inner new))) = _
    rw [List.set_append_left _ _ hk, refill_call (List.length_set ..)]
  have hvariable : (mk s (.declarator pattern (some (.mk t (.call callee args types)))
      isDefinite)).parts[1]? = some (.mk t (.call callee args types)) := rfl
  rw [replaceAt_cons hvariable, hcall]
  rfl

/-- What is within an argument of the call that a variable is bound to. -/
theorem at?_argument {s t : Span} {pattern arg : Node} {args : List Node} {types : Option Node}
    {isDefinite : Bool} {k : Nat} (harg : args[k]? = some arg) (inner : Place) :
    (mk s (.declarator pattern (some (.mk t (.call callee args types))) isDefinite)).at?
      (1 :: (k + 1) :: inner) = arg.at? inner := by
  obtain ⟨hk, -⟩ := List.getElem?_eq_some_iff.1 harg
  change (args ++ types.toList)[k]?.bind _ = _
  rw [List.getElem?_append_left hk, harg]
  rfl

/-- **A property is appended for a variable** if it has the server's fields, at the end of the object
that holds them. -/
theorem appendToVariable?_eq_some (h : appendToVariable? settings property n = some b) :
    ∃ place s props, n.HoldsFields settings place ∧ n.at? place = some (.mk s (.object props)) ∧
      b = n.replaceAt place (.mk s (.object (props ++ [property]))) := by
  unfold appendToVariable? at h
  split at h
  · next s pattern t callee args types isDefinite =>
    -- the name of the variable and what is called have been looked at before the arguments
    obtain ⟨isOptional, type, hpattern, hmember, hmap⟩ : ∃ isOptional type,
        pattern.form = .binding settings.object isOptional type ∧
        isLibraryMember settings.space callee = true ∧
        ((changeFirstOf (appendToObject? property) args).map fun args =>
          mk s (.declarator pattern (some (.mk t (.call callee args types))) isDefinite)) = some b := by
      dsimp only at h
      split at h
      · next name isOptional type hpattern =>
        split at h
        · next hserver =>
          obtain ⟨hname, hmember⟩ := Bool.and_eq_true_iff.1 hserver
          exact ⟨isOptional, type, (eq_of_beq hname) ▸ hpattern, hmember, h⟩
        · exact nomatch h
      · rw [Bool.false_and] at h
        exact nomatch h
    obtain ⟨object, key, isLoose, hcallee, hobject⟩ := isLibraryMember_iff.1 hmember
    obtain ⟨args', hargs, rfl⟩ := Option.map_eq_some_iff.1 hmap
    obtain ⟨l₁, arg, b, l₂, rfl, hnone, hab, rfl⟩ := changeFirstOf_eq_some_iff.1 hargs
    obtain ⟨inner, u, props, hinner, hat, rfl⟩ := appendToObject?_eq_some hab
    have harg : (l₁ ++ arg :: l₂)[l₁.length]? = some arg := by simp
    have hbefore : ∀ j < l₁.length, ∀ a, (l₁ ++ arg :: l₂)[j]? = some a → a.objectPlace? = none := by
      intro j hj a ha
      rw [List.getElem?_append_left hj] at ha
      exact appendToObject?_eq_none_iff.1 (hnone a (List.mem_of_getElem? ha))
    -- the call is behind the pattern, and its arguments are behind what is called
    refine ⟨1 :: (l₁.length + 1) :: inner, u, props,
      .intro hpattern hcallee hobject harg hinner hbefore, ?_, ?_⟩
    · rw [at?_argument harg]
      exact hat
    · rw [replaceAt_argument harg, List.set_append_right _ _ (Nat.le_refl _), Nat.sub_self,
        List.set_cons_zero]
  · exact nomatch h

/-- **A property can be appended for a variable** if it has the server's fields, and only then. -/
theorem appendToVariable?_ne_none_iff :
    appendToVariable? settings property n ≠ none ↔ ∃ place, n.HoldsFields settings place := by
  constructor
  · intro h
    obtain ⟨b, hb⟩ := Option.ne_none_iff_exists'.1 h
    obtain ⟨place, -, -, hholds, -⟩ := appendToVariable?_eq_some hb
    exact ⟨place, hholds⟩
  · rintro ⟨place, hholds⟩
    cases hholds with
    | @intro s t pattern callee object key arg args _ _ _ _ _ k inner hpattern hcallee hobject harg
        hinner _ =>
      have hmember : isLibraryMember settings.space callee = true :=
        isLibraryMember_iff.2 ⟨object, key, _, hcallee, hobject⟩
      -- one of the arguments holds an object, so there is a first one that does
      have hargs : changeFirstOf (appendToObject? property) args ≠ none := by
        intro hnone
        rw [changeFirstOf_eq_none_iff] at hnone
        rw [appendToObject?_eq_none_iff.1 (hnone arg (List.mem_of_getElem? harg))] at hinner
        exact nomatch hinner
      obtain ⟨args', hargs'⟩ := Option.ne_none_iff_exists'.1 hargs
      unfold appendToVariable?
      simp [hpattern, hmember, hargs']

/-! ### Phrases without such variables -/

/-- **No variable with the server's fields** is within a phrase. -/
def HoldsNone (settings : SchemaSettings) (n : Node) : Prop :=
  ∀ x ∈ n.nodes, ∀ place, ¬ x.HoldsFields settings place

/-- Whether a phrase declares a variable. -/
def isDeclarator (n : Node) : Bool :=
  match n.form with
  | .declarator .. => true
  | _ => false

/-- Such a variable is declared. -/
theorem HoldsFields.isDeclarator {place : Place} (h : n.HoldsFields settings place) :
    n.isDeclarator = true := by
  cases h
  rfl

/-- None is within a phrase that declares no variable, if none is within its parts. -/
theorem holdsNone_of_parts (hn : n.isDeclarator = false)
    (hparts : ∀ p ∈ n.parts, p.HoldsNone settings) : n.HoldsNone settings := by
  intro x hx place hholds
  rcases mem_nodes_iff.1 hx with rfl | ⟨p, hp, hx⟩
  · rw [hholds.isDeclarator] at hn
    exact nomatch hn
  · exact hparts p hp x hx place hholds

/-- The same for a phrase of which the form is known. -/
private theorem holdsNone_of_form {f : Form Node} (h : n.form = f)
    (hf : (mk .none f).isDeclarator = false) (hparts : ∀ p ∈ f.parts, p.HoldsNone settings) :
    n.HoldsNone settings := by
  subst h
  exact holdsNone_of_parts hf hparts

/-- None is within a part of a phrase that has none. -/
theorem HoldsNone.of_part (h : n.HoldsNone settings) {p : Node} (hp : p ∈ n.parts) :
    p.HoldsNone settings :=
  fun x hx => h x (mem_nodes_iff.2 (.inr ⟨p, hp, hx⟩))

/-- None is within the calls of a name. -/
theorem IsCalls.holdsNone {lib : String} {ws : List String} (h : n.IsCalls lib ws) :
    n.HoldsNone settings := by
  induction h with
  | name h => exact holdsNone_of_form h rfl fun p hp => absurd hp List.not_mem_nil
  | call ho hk hc h ih =>
    refine holdsNone_of_form h rfl fun p hp => ?_
    obtain rfl := List.mem_singleton.1 hp
    refine holdsNone_of_form hc rfl fun q hq => ?_
    rcases List.mem_cons.1 hq with rfl | hq
    · exact ih
    · obtain rfl := List.mem_singleton.1 hq
      exact holdsNone_of_form hk rfl fun p hp => absurd hp List.not_mem_nil

/-- None is within a field. -/
theorem IsFieldOf.holdsNone {name lib : String} {ws : List String} (h : n.IsFieldOf name lib ws) :
    n.HoldsNone settings := by
  -- a field is made of its key and its value, and neither of them declares a variable
  obtain ⟨key, value, hn, hk, hv⟩ := h
  refine holdsNone_of_form hn rfl fun p hp => ?_
  rcases List.mem_cons.1 hp with rfl | hp
  · cases hk with
    | word h => exact holdsNone_of_form h rfl fun p hp => absurd hp List.not_mem_nil
    | quoted raw h => exact holdsNone_of_form h rfl fun p hp => absurd hp List.not_mem_nil
  · obtain rfl := List.mem_singleton.1 hp
    exact hv.holdsNone

/-- **None is within an object** to which a property without one is appended. -/
theorem holdsNone_append {s : Span} {props : List Node} (h : (mk s (.object props)).HoldsNone settings)
    (hp : property.HoldsNone settings) : (mk s (.object (props ++ [property]))).HoldsNone settings := by
  refine holdsNone_of_parts rfl fun p hmem => ?_
  rcases List.mem_append.1 hmem with hmem | hmem
  · exact h.of_part hmem
  · rw [List.mem_singleton.1 hmem]
    exact hp

/-- An argument with a property at the end of its object holds the object where it held it. -/
private theorem objectPlace?_append {inner : Place} {s : Span} {props : List Node}
    (hinner : arg.objectPlace? = some inner) (hat : arg.at? inner = some (mk s (.object props)))
    (hnone : arg.HoldsNone settings) (hp : property.HoldsNone settings) :
    (arg.replaceAt inner (mk s (.object (props ++ [property])))).objectPlace? = some inner ∧
      (arg.replaceAt inner (mk s (.object (props ++ [property])))).HoldsNone settings := by
  unfold objectPlace? at hinner
  -- the object is the argument itself, or what is spread in it
  split at hinner
  · cases hinner
    cases hat
    exact ⟨rfl, holdsNone_append hnone hp⟩
  · next u t props' =>
    cases hinner
    cases hat
    have hobject : (mk s (.object props)).HoldsNone settings := hnone.of_part List.mem_cons_self
    refine ⟨rfl, holdsNone_of_parts rfl fun p hmem => ?_⟩
    rw [List.mem_singleton.1 hmem]
    exact holdsNone_append hobject hp
  · exact nomatch hinner

/-- **A variable keeps the server's fields in their place** when a property is appended to them. -/
theorem HoldsFields.append {place : Place} {s : Span} {props : List Node}
    (h : n.HoldsFields settings place) (hat : n.at? place = some (mk s (.object props)))
    (hnone : ∀ p ∈ n.parts, p.HoldsNone settings) (hp : property.HoldsNone settings) :
    (n.replaceAt place (mk s (.object (props ++ [property])))).HoldsFields settings place ∧
      ∀ p ∈ (n.replaceAt place (mk s (.object (props ++ [property])))).parts,
        p.HoldsNone settings := by
  cases h with
  | @intro u t pattern callee object key arg args type types _ _ _ k inner hpattern hcallee hobject
      harg hinner hbefore =>
    -- the variable keeps its pattern and what it calls, and the argument that held the object holds the
    -- longer one
    have hcall : (mk t (.call callee args types)).HoldsNone settings :=
      hnone _ (List.mem_cons_of_mem _ List.mem_cons_self)
    obtain ⟨hk, -⟩ := List.getElem?_eq_some_iff.1 harg
    have hmem : arg ∈ (mk t (.call callee args types)).parts :=
      List.mem_cons_of_mem _ (List.mem_append_left _ (List.mem_of_getElem? harg))
    rw [at?_argument harg] at hat
    obtain ⟨hinner', hnone'⟩ := objectPlace?_append hinner hat (hcall.of_part hmem) hp
    rw [replaceAt_argument harg]
    refine ⟨.intro hpattern hcallee hobject (List.getElem?_set_self hk) hinner' ?_, ?_⟩
    · intro j hj a ha
      rw [List.getElem?_set_ne (Nat.ne_of_gt hj)] at ha
      exact hbefore j hj a ha
    · intro p hpart
      rcases List.mem_cons.1 hpart with rfl | hpart
      · exact hnone _ List.mem_cons_self
      · rw [List.mem_singleton.1 hpart]
        -- what is called and its types are as they were, and so are the other arguments
        refine holdsNone_of_parts rfl fun q hq => ?_
        rcases List.mem_cons.1 hq with rfl | hq
        · exact hcall.of_part List.mem_cons_self
        rcases List.mem_append.1 hq with hq | hq
        · rcases List.mem_or_eq_of_mem_set hq with hq | rfl
          · exact hcall.of_part (List.mem_cons_of_mem _ (List.mem_append_left _ hq))
          · exact hnone'
        · exact hcall.of_part (List.mem_cons_of_mem _ (List.mem_append_right _ hq))

end Script.Node

/-! ### The module as one phrase -/

namespace Script.Module

variable {settings : SchemaSettings} {property : Node} {m m' : Module} {place : Place} {span : Span}
  {props : List Node}

/-- **The items of a module as one phrase**, so that places in it can be told. -/
def whole (m : Module) : Node := .mk m.span (.block m.items)

/-- A module with another phrase at a place. -/
def put (m : Module) (place : Place) (new : Node) : Module :=
  { m with items := (m.whole.replaceAt place new).parts }

/-- Appending changes the first variable of the whole that has the server's fields. -/
theorem appendField?_eq : m.appendField? settings property =
    (m.whole.changeFirst (appendToVariable? settings property)).map fun n =>
      { m with items := n.parts } := by
  have hitems : m.whole.parts = m.items := rfl
  rw [Node.changeFirst_eq, hitems, appendField?]
  cases h : Node.changeFirstOf (Node.changeFirst (appendToVariable? settings property)) m.items with
  | none => rfl
  | some ps =>
    obtain ⟨l₁, a, b, l₂, hsplit, -, -, rfl⟩ := Node.changeFirstOf_eq_some_iff.1 h
    have hparts : ((Form.block m.items).refill (l₁ ++ b :: l₂)).parts = l₁ ++ b :: l₂ :=
      Form.parts_refill (by rw [hsplit]; simp [Form.parts])
    exact congrArg (fun items => some { m with items := items }) hparts.symm

/-- **The place of the server's fields in a module**: the first variable that has them counts. The
object is there, with its properties. -/
structure FieldsAt (m : Module) (settings : SchemaSettings) (place : Place) (span : Span)
    (props : List Node) : Prop where
  first : ∃ outer inner n, place = outer ++ inner ∧
    m.whole.First (fun x => ∃ p, x.HoldsFields settings p) outer ∧ m.whole.at? outer = some n ∧
    n.HoldsFields settings inner
  object : m.whole.at? place = some (.mk span (.object props))

/-- A module has one place of the server's fields at most. -/
theorem FieldsAt.unique {place' : Place} {span' : Span} {props' : List Node}
    (h : m.FieldsAt settings place span props) (h' : m.FieldsAt settings place' span' props') :
    place = place' ∧ span = span' ∧ props = props' := by
  obtain ⟨outer, inner, n, rfl, hfirst, hn, hholds⟩ := h.first
  obtain ⟨outer', inner', n', rfl, hfirst', hn', hholds'⟩ := h'.first
  -- the first variable is the same, and it has one place for its fields
  obtain rfl := hfirst.unique hfirst'
  cases hn.symm.trans hn'
  obtain rfl := hholds.unique hholds'
  cases h.object.symm.trans h'.object
  exact ⟨rfl, rfl, rfl⟩

/-- The whole itself is no variable. -/
private theorem not_whole_holdsFields {p : Place} : ¬ m.whole.HoldsFields settings p := nofun

/-- What is within the module is within the whole, apart from the whole itself. -/
theorem mem_nodes_whole_iff {n : Node} : n ∈ m.whole.nodes ↔ n = m.whole ∨ n ∈ m.nodes := by
  rw [Node.nodes_eq, List.mem_cons]
  rfl

/-- **A field can be appended** just if the module has a variable with the server's fields. -/
theorem appendField?_ne_none_iff : m.appendField? settings property ≠ none ↔
    ∃ n ∈ m.nodes, ∃ p, n.HoldsFields settings p := by
  rw [appendField?_eq, Ne, Option.map_eq_none_iff, Node.changeFirst_eq_none_iff]
  simp only [Classical.not_forall, exists_prop]
  constructor
  · rintro ⟨n, hn, hchange⟩
    obtain ⟨p, hholds⟩ := Node.appendToVariable?_ne_none_iff.1 hchange
    rcases mem_nodes_whole_iff.1 hn with rfl | hn
    · exact absurd hholds not_whole_holdsFields
    · exact ⟨n, hn, p, hholds⟩
  · rintro ⟨n, hn, p, hholds⟩
    exact ⟨n, mem_nodes_whole_iff.2 (.inr hn), Node.appendToVariable?_ne_none_iff.2 ⟨p, hholds⟩⟩

/-- **A field is appended to the object with the server's fields**, and nothing else changes. -/
theorem fieldsAt_of_appendField? (h : m.appendField? settings property = some m') :
    ∃ place span props, m.FieldsAt settings place span props ∧
      m' = m.put place (.mk span (.object (props ++ [property]))) := by
  rw [appendField?_eq] at h
  obtain ⟨n, hn, rfl⟩ := Option.map_eq_some_iff.1 h
  obtain ⟨outer, a, b, hfirst, ha, hab, rfl⟩ := Node.exists_first_of_changeFirst hn
  obtain ⟨inner, span, props, hholds, hat, rfl⟩ := Node.appendToVariable?_eq_some hab
  refine ⟨outer ++ inner, span, props, ⟨⟨outer, inner, a, rfl, ?_, ha, hholds⟩, ?_⟩, ?_⟩
  · exact hfirst.congr fun x => Node.appendToVariable?_ne_none_iff
  · rw [Node.at?_append, ha]
    exact hat
  · rw [put, Node.replaceAt_append ha]

/-- A block with other items, as many as it had. -/
private theorem refill_block {items items' : List Node} (h : items'.length = items.length) :
    (Form.block items).refill items' = .block items' := by
  obtain ⟨taken, htake, rfl⟩ := Form.takes_many items items' [] h
  rw [List.append_nil] at htake
  change Form.block (Form.many items taken).1 = _
  rw [htake]

/-- The server's fields are within an item of the module. -/
theorem FieldsAt.ne_nil (h : m.FieldsAt settings place span props) : place ≠ [] := by
  rintro rfl
  exact nomatch h.object

/-- **What is put in the place of the server's fields** is put within the whole. -/
theorem FieldsAt.whole_put (h : m.FieldsAt settings place span props) (new : Node) :
    (m.put place new).whole = m.whole.replaceAt place new := by
  obtain ⟨i, is, rfl⟩ := List.exists_cons_of_ne_nil h.ne_nil
  obtain ⟨p, hp, -⟩ := Node.at?_cons_eq_some_iff.1 h.object
  have hform : m.whole.form.refill (m.whole.parts.set i (p.replaceAt is new)) =
      .block (m.whole.parts.set i (p.replaceAt is new)) := refill_block (List.length_set ..)
  rw [whole, put, Node.replaceAt_cons hp, hform]
  rfl

/-- **The next field is put into the same object.** -/
theorem FieldsAt.append (h : m.FieldsAt settings place span props)
    (hp : property.HoldsNone settings) :
    (m.put place (.mk span (.object (props ++ [property])))).FieldsAt settings place span
      (props ++ [property]) := by
  obtain ⟨outer, inner, n, rfl, hfirst, hn, hholds⟩ := h.first
  have hat : n.at? inner = some (.mk span (.object props)) := by
    have hobject := h.object
    rw [Node.at?_append, hn] at hobject
    exact hobject
  -- the variable stays the first one, for the field brings no other one into it
  obtain ⟨hholds', hnone⟩ := hholds.append hat (fun p hpart x hx q hq =>
    hfirst.within hn p hpart x hx ⟨q, hq⟩) hp
  have hwhole := h.whole_put (.mk span (.object (props ++ [property])))
  refine ⟨⟨outer, inner, _, rfl, ?_, ?_, hholds'⟩, ?_⟩
  · rw [hwhole, Node.replaceAt_append hn]
    exact hfirst.replaceAt ⟨inner, hholds'⟩ fun p hpart x hx ⟨q, hq⟩ => hnone p hpart x hx q hq
  · rw [hwhole, Node.replaceAt_append hn]
    exact Node.at?_replaceAt hn _
  · rw [hwhole]
    exact Node.at?_replaceAt h.object _

end Script.Module

/-! ### Adding fields -/

section Adding

variable {s s' s'' : Schema} {settings : SchemaSettings} {name : String} {type : FieldType}
  {adds : List (String × FieldType)}

/-- **Fields are added one after the other**, each of them with success. -/
inductive Schema.Adds (settings : SchemaSettings) :
    Schema → List (String × FieldType) → Schema → Prop
  | nil (s : Schema) : Adds settings s [] s
  | cons {s s' s'' : Schema} {name : String} {type : FieldType} {adds : List (String × FieldType)}
      (hadd : s.add name type settings = .ok (true, s')) (hadds : Adds settings s' adds s'') :
      Adds settings s ((name, type) :: adds) s''

/-- A type without a call has no field. -/
theorem fieldText?_eq_none_iff {space : String} :
    fieldText? name type space = none ↔ type = .other := by
  rw [fieldText?, Option.map_eq_none_iff, FieldType.expression?_eq_none_iff]

/-- **When a field is added**, if the library goes by an identifier. -/
private theorem add_true_iff (hspace : IsName settings.space) :
    (∃ s', s.add name type settings = .ok (true, s')) ↔ name ∉ s.declared ∧ type ≠ .other ∧
      ∃ n ∈ s.module.nodes, ∃ place, n.HoldsFields settings place := by
  constructor
  · rintro ⟨s', h⟩
    obtain ⟨hname, htype⟩ := (Schema.isAdded_iff h).1 rfl
    obtain ⟨text, property, m, -, -, hm, -⟩ := (Schema.gets_of_add h).module
    exact ⟨hname, htype, Script.Module.appendField?_ne_none_iff.1
      (Option.ne_none_iff_exists'.2 ⟨m, hm⟩)⟩
  · rintro ⟨hname, htype, hholds⟩
    -- the text of the field is always read as a property, so nothing but a missing object can stop it
    obtain ⟨text, htext⟩ := Option.ne_none_iff_exists'.1 (mt fieldText?_eq_none_iff.1 htype)
    obtain ⟨property, hproperty, -⟩ := property_of_fieldText s.module hspace htext
    have hne : s.module.appendField? settings property ≠ none :=
      Script.Module.appendField?_ne_none_iff.2 hholds
    obtain ⟨m, hm⟩ := Option.ne_none_iff_exists'.1 hne
    rw [Schema.add, if_neg hname, htext]
    dsimp only
    rw [hproperty]
    dsimp only
    rw [hm]
    exact ⟨_, rfl⟩

/-- **Where a field is put**, if the library goes by an identifier. -/
theorem fieldsAt_of_add (hspace : IsName settings.space)
    (h : s.add name type settings = .ok (true, s')) : ∃ place span props property,
    s.module.FieldsAt settings place span props ∧
    property.IsFieldOf name settings.space type.calls ∧
    s'.module = { s.module.put place (.mk span (.object (props ++ [property]))) with
      free := s'.module.free } := by
  obtain ⟨text, property, m, htext, hproperty, hm, hs⟩ := (Schema.gets_of_add h).module
  obtain ⟨p, hp, hfield⟩ := property_of_fieldText s.module hspace htext
  obtain rfl := Except.ok.inj (hproperty.symm.trans hp)
  obtain ⟨place, span, props, hat, rfl⟩ := Script.Module.fieldsAt_of_appendField? hm
  refine ⟨place, span, props, property, hat, hfield, ?_⟩
  rw [hs]

/-- A field that is added goes where the module has the server's fields, and they stay there. -/
theorem fieldsAt_after_add (hspace : IsName settings.space) {place : Place} {span : Span}
    {props : List Node} (hat : s.module.FieldsAt settings place span props)
    (h : s.add name type settings = .ok (true, s')) : ∃ property,
    property.IsFieldOf name settings.space type.calls ∧
    s'.module.FieldsAt settings place span (props ++ [property]) := by
  obtain ⟨place', span', props', property, hat', hfield, hs⟩ := fieldsAt_of_add hspace h
  obtain ⟨rfl, rfl, rfl⟩ := hat.unique hat'
  have happend := hat.append hfield.holdsNone
  refine ⟨property, hfield, ?_⟩
  rw [hs]
  exact ⟨happend.first, happend.object⟩

/-- Fields that are added go to the end of one object, one after the other. -/
theorem fieldsAt_after_adds (hspace : IsName settings.space) {place : Place} {span : Span}
    {props : List Node} (hat : s.module.FieldsAt settings place span props)
    (h : s.Adds settings adds s') : ∃ properties,
    List.Forall₂ (fun add p => p.IsFieldOf add.1 settings.space add.2.calls) adds properties ∧
    s'.module.FieldsAt settings place span (props ++ properties) := by
  -- by induction on the fields: the object stays where it is and has one property more each time
  induction h generalizing props with
  | nil s => exact ⟨[], .nil, by rwa [List.append_nil]⟩
  | cons hadd _ ih =>
    obtain ⟨property, hfield, hat'⟩ := fieldsAt_after_add hspace hat hadd
    obtain ⟨properties, hfields, hat''⟩ := ih hat'
    refine ⟨property :: properties, .cons hfield hfields, ?_⟩
    rwa [List.append_assoc] at hat''

/-- **When and where fields are added**, if the library goes by an identifier. A field is added just
if its name is not declared, its type has a call, and somewhere in the module a variable has the
server's fields. It becomes the last property of the object that holds them, of the first such
variable, and nothing else in the module changes. Fields that are added one after the other all go to
that object, in their order. -/
theorem add_places (hspace : IsName settings.space) (s : Schema) :
    (∀ name type, (∃ s', s.add name type settings = .ok (true, s')) ↔
      name ∉ s.declared ∧ type ≠ .other ∧
        ∃ n ∈ s.module.nodes, ∃ place, n.HoldsFields settings place) ∧
    (∀ name type s', s.add name type settings = .ok (true, s') → ∃ place span props property,
      s.module.FieldsAt settings place span props ∧
      property.IsFieldOf name settings.space type.calls ∧
      s'.module = { s.module.put place (.mk span (.object (props ++ [property]))) with
        free := s'.module.free }) ∧
    (∀ adds s', s.Adds settings adds s' → adds ≠ [] → ∃ place span props properties,
      s.module.FieldsAt settings place span props ∧
      List.Forall₂ (fun add p => p.IsFieldOf add.1 settings.space add.2.calls) adds properties ∧
      s'.module.FieldsAt settings place span (props ++ properties)) := by
  refine ⟨fun _ _ => add_true_iff hspace, fun _ _ _ => fieldsAt_of_add hspace, ?_⟩
  intro adds s' hadds hne
  -- the first addition tells where the fields stand, and the others go to the same place
  cases hadds with
  | nil => exact absurd rfl hne
  | cons hadd hadds =>
    obtain ⟨place, span, props, -, hat, -, -⟩ := fieldsAt_of_add hspace hadd
    obtain ⟨properties, hfields, hat'⟩ := fieldsAt_after_adds hspace hat (.cons hadd hadds)
    exact ⟨place, span, props, properties, hat, hfields, hat'⟩

end Adding

/-! ### A variable within a variable -/

/-- A schema in which a variable with the server's fields is within another one. -/
def nestedText : String :=
  "const serverSchema = z.object(\x7b A: () => \x7b const serverSchema = z.object(\x7b\x7d) \x7d \x7d)"

set_option maxRecDepth 20000 in
/-- Two fields are added to that schema. -/
theorem nested_adds : ∃ s s', Schema.parse "/schema.mjs" nestedText = .ok s ∧
    s.Adds {} [("KEY", .text), ("HOME", .url)] s' := by
  have hrun : (Schema.parse "/schema.mjs" nestedText).toOption.any (fun s =>
      (s.add "KEY" .text {}).toOption.any fun r => r.1 &&
        (r.2.add "HOME" .url {}).toOption.any fun r' => r'.1) = true := by decide +kernel
  obtain ⟨s, hparse, htest⟩ := exists_ok_of_any hrun
  obtain ⟨⟨isAdded, s'⟩, hkey, htest⟩ := exists_ok_of_any htest
  obtain ⟨hadded, htest⟩ := Bool.and_eq_true_iff.1 htest
  obtain ⟨⟨isAdded', s''⟩, hhome, hadded'⟩ := exists_ok_of_any htest
  obtain rfl : isAdded = true := hadded
  obtain rfl : isAdded' = true := hadded'
  exact ⟨s, s'', hparse, .cons hkey (.cons hhome (.nil s''))⟩

/-- Both fields go to the end of one object. -/
theorem add_places_nested : IsName "z" ∧ ∃ s s', Schema.parse "/schema.mjs" nestedText = .ok s ∧
    s.Adds {} [("KEY", .text), ("HOME", .url)] s' ∧ ∃ place span props key home,
      s.module.FieldsAt {} place span props ∧ key.IsFieldOf "KEY" "z" ["string"] ∧
      home.IsFieldOf "HOME" "z" ["string", "url"] ∧
      s'.module.FieldsAt {} place span (props ++ [key, home]) := by
  obtain ⟨s, s', hparse, hadds⟩ := nested_adds
  obtain ⟨place, span, props, properties, hat, hfields, hat'⟩ :=
    (@add_places {} isName_z s).2.2 _ s' hadds (List.cons_ne_nil _ _)
  cases hfields with
  | cons hkey hfields =>
    cases hfields with
    | cons hhome hfields =>
      cases hfields
      exact ⟨isName_z, s, s', hparse, hadds, place, span, props, _, _, hat, hkey, hhome, hat'⟩

/-! ### A library that goes by two words -/

/-- A schema in whose only function the library goes by a word with a blank, spelt with an escape. -/
def spacedText : String :=
  "const f = <T,>() => \x7b const s = z\\u0020b.object(\x7b\x7d) \x7d"

/-- That word as the name of the library. -/
def spacedSettings : SchemaSettings := { object := "s", space := "z b" }

set_option maxRecDepth 20000 in
/-- **A library that goes by no identifier** may have fields to which none can be added. -/
theorem add_fails_spaced : ∃ s, Schema.parse "/schema.ts" spacedText = .ok s ∧
    "KEY" ∉ s.declared ∧ FieldType.text ≠ .other ∧
    (∃ n ∈ s.module.nodes, ∃ place, n.HoldsFields spacedSettings place) ∧
    ¬ ∃ s', s.add "KEY" .text spacedSettings = .ok (true, s') := by
  have hrun : (Schema.parse "/schema.ts" spacedText).toOption.any (fun s =>
      (decide ("KEY" ∉ s.declared) &&
        (s.module.appendField? spacedSettings (.mk .none (.ident "KEY" false))).isSome) &&
        !(s.add "KEY" .text spacedSettings).toOption.any fun r => r.1) = true := by decide +kernel
  obtain ⟨s, hparse, htest⟩ := exists_ok_of_any hrun
  obtain ⟨htest, hfails⟩ := Bool.and_eq_true_iff.1 htest
  obtain ⟨hname, hsome⟩ := Bool.and_eq_true_iff.1 htest
  refine ⟨s, hparse, of_decide_eq_true hname, by decide, ?_, ?_⟩
  · exact Script.Module.appendField?_ne_none_iff.1 (Option.isSome_iff_ne_none.1 hsome)
  · rintro ⟨s', hadd⟩
    rw [hadd] at hfails
    exact nomatch hfails

end EnvSchema
