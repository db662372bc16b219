import EnvSchema.Proofs.Schema.Placing
import EnvSchema.Proofs.Script.Replacing

/-!
# A schema that gets fields

Fields are put into one object of a schema. Everything else that the program asks of a schema stays as
it was: what it imports, what it reads, and which variables it binds.

* `Module.boundNames` — the names that variables of a module are bound to;
* `Schema.Extends` — a schema that differs from another one in its fields at most;
* `Schema.Adds.toExtends` — **a schema that gets fields extends the one that it was**, if the library
  goes by an identifier;
* `Schema.Adds.pending`, `Schema.Adds.mem_boundNames` — the names that wait to be written, and the
  variable with the server's fields.
-/

namespace EnvSchema

open Script (Form IsName Module Node Place Span)

variable {settings : SchemaSettings} {name library : String} {type : FieldType}

namespace Script

/-! ### Fields read nothing -/

namespace Node

variable {n property : Node} {space x : String} {ws : List String}

/-- A phrase of which the form is known reads nothing, if it reads nothing itself and its parts do
not. -/
private theorem not_reads_of_form {f : Form Node} (h : n.form = f) (hself : n.envName? = none)
    (hparts : ∀ p ∈ f.parts, ¬ p.Reads x) : ¬ n.Reads x := by
  rw [reads_iff, hself, parts, h]
  rintro (hx | ⟨p, hp, hx⟩)
  · cases hx
  · exact hparts p hp hx

/-- A word reads nothing. -/
private theorem not_reads_of_ident {w : String} {isOptional : Bool} (h : n.form = .ident w isOptional) :
    ¬ n.Reads x :=
  not_reads_of_form h (by rw [envName?, h]) fun _ hp => nomatch hp

/-- The calls of a name are not the environment. -/
private theorem IsCalls.isEnvironment (h : n.IsCalls space ws) : n.isEnvironment = false := by
  cases h with
  | name h => rw [Node.isEnvironment, h]
  | call _ _ _ h => rw [Node.isEnvironment, h]

/-- The calls of a name read nothing. -/
theorem IsCalls.not_reads (h : n.IsCalls space ws) : ¬ n.Reads x := by
  -- by induction on the calls, from the name that they start with
  induction h with
  | name h => exact not_reads_of_ident h
  | call ho hk hc h ih =>
    refine not_reads_of_form h (by rw [envName?, h]) fun p hp => ?_
    obtain rfl := List.mem_singleton.1 hp
    -- what members are looked up in is a word or a call, and not the environment
    have hcallee : p.envName? = none := by
      rw [envName?, hc]
      dsimp only
      rw [ho.isEnvironment]
      rfl
    refine not_reads_of_form hc hcallee fun q hq => ?_
    rcases List.mem_cons.1 hq with rfl | hq
    · exact ih
    · obtain rfl := List.mem_singleton.1 hq
      exact not_reads_of_ident hk

/-- A field reads nothing. -/
theorem IsFieldOf.not_reads (h : n.IsFieldOf name space ws) : ¬ n.Reads x := by
  obtain ⟨key, value, hn, hk, hv⟩ := h
  refine not_reads_of_form hn (by rw [envName?, hn]) fun p hp => ?_
  rcases List.mem_cons.1 hp with rfl | hp
  · cases hk with
    | word h => exact not_reads_of_ident h
    | quoted raw h => exact not_reads_of_form h (by rw [envName?, h]) fun _ hp => nomatch hp
  · obtain rfl := List.mem_singleton.1 hp
    exact hv.not_reads

/-- An object says nothing to the phrase around it. -/
private theorem isMute_object (s : Span) (props : List Node) : (mk s (.object props)).IsMute :=
  ⟨rfl, rfl, rfl⟩

/-- An object reads what it did when a field is appended to it. -/
private theorem reads_object_append (s : Span) (props : List Node)
    (h : property.IsFieldOf name space ws) :
    (mk s (.object (props ++ [property]))).Reads x ↔ (mk s (.object props)).Reads x := by
  have hparts (ps : List Node) : (mk s (.object ps)).Reads x ↔ ∃ p ∈ ps, p.Reads x := by
    rw [reads_iff]
    exact or_iff_right nofun
  rw [hparts, hparts]
  simp [or_and_right, exists_or, h.not_reads]

/-- The name that a pattern is, if it is one. -/
def bindingName? (pattern : Node) : Option String :=
  match pattern.form with
  | .binding name _ _ => some name
  | _ => none

/-- **The variable that a phrase binds**, if it binds one to a name. -/
def boundName? (n : Node) : Option String :=
  match n.form with
  | .declarator pattern _ _ => pattern.bindingName?
  | _ => none

/-- A variable with the server's fields goes by the name of the server's object. -/
theorem HoldsFields.boundName? {place : Place} (h : n.HoldsFields settings place) :
    n.boundName? = some settings.object := by
  cases h with
  | intro hpattern _ _ _ _ _ =>
    change Node.bindingName? _ = _
    rw [Node.bindingName?, hpattern]

end Node

/-! ### Modules with another property -/

namespace Module

variable {m : Module} {place : Place} {span : Span} {props : List Node} {property : Node}
  {space x : String} {ws : List String}

/-- **The names that variables are bound to.** -/
def boundNames (m : Module) : List String := m.nodes.filterMap Node.boundName?

/-- What a module reads is what the whole of it does. -/
private theorem reads_whole_iff : m.whole.Reads x ↔ m.Reads x := by
  rw [Node.reads_iff]
  refine (or_iff_right nofun).trans (exists_congr fun item => and_congr_right fun _ => ?_)
  exact exists_congr fun p => and_congr_left fun _ => Node.mem_nodes_iff_within

/-- What a module imports is what one of its items does. -/
private theorem imports_eq : m.imports library = (m.whole.parts.map (Node.importsFrom library)).any id := by
  rw [List.any_map]
  -- the item that imports is told by its form in both ways
  refine congrArg (List.any m.items) (funext fun n => ?_)
  change _ = n.importsFrom library
  unfold Node.importsFrom
  split
  · next hform =>
    rw [hform]
    rfl
  · next hnot =>
    split
    · next hform =>
      unfold Node.isText
      split
      · next source _ _ _ hsource =>
        obtain ⟨t, f⟩ := source
        obtain rfl : f = _ := hsource
        exact absurd hform (hnot _ _ _ _ _ _)
      · rfl
    · rfl

/-- **A module reads what it did** when a field is put among the server's. -/
theorem FieldsAt.reads_put (h : m.FieldsAt settings place span props)
    (hfield : property.IsFieldOf name space ws) :
    (m.put place (.mk span (.object (props ++ [property])))).Reads x ↔ m.Reads x := by
  rw [← reads_whole_iff, h.whole_put, ← reads_whole_iff (m := m)]
  exact Node.reads_replaceAt h.object (Node.isMute_object ..) (Node.isMute_object ..)
    (Node.reads_object_append span props hfield)

/-- **A module imports what it did** when something is put among the server's fields. -/
theorem FieldsAt.imports_put (h : m.FieldsAt settings place span props) (props' : List Node) :
    (m.put place (.mk span (.object props'))).imports library = m.imports library := by
  have hmap : ((m.put place (.mk span (.object props'))).whole.parts).map (Node.importsFrom library) =
      m.whole.parts.map (Node.importsFrom library) := by
    rw [h.whole_put]
    -- the place lies within one item, and the other items are the same
    obtain ⟨i, is, rfl⟩ := List.exists_cons_of_ne_nil h.ne_nil
    obtain ⟨p, hp, hat⟩ := Node.at?_cons_eq_some_iff.1 h.object
    rw [Node.parts_replaceAt_cons hp]
    exact Node.map_set_eq hp (Node.importsFrom_replaceAt hat (Node.isMute_object ..)
      (Node.isMute_object ..) rfl)
  rw [imports_eq, imports_eq, hmap]

/-- A module with the server's fields binds the server's object. -/
theorem FieldsAt.mem_boundNames (h : m.FieldsAt settings place span props) :
    settings.object ∈ m.boundNames := by
  -- the variable that holds the fields is one of the module's phrases
  obtain ⟨outer, inner, n, -, -, hn, hholds⟩ := h.first
  refine List.mem_filterMap.2 ⟨n, ?_, hholds.boundName?⟩
  rcases mem_nodes_whole_iff.1 (Node.mem_nodes_of_at? hn) with rfl | hmem
  · exact nomatch hholds
  · exact hmem

end Module

end Script

/-! ### Schemas with more fields -/

variable {s s' s'' : Schema} {adds : List (String × FieldType)}

/-- **A schema that differs from another one in its fields at most.** -/
structure Schema.Extends (s s' : Schema) : Prop where
  path : s'.path = s.path
  dialect : s'.module.dialect = s.module.dialect
  /-- The names that it declares are the keys of its module, if they were. -/
  keyed : s.declared = s.module.keys → s'.declared = s'.module.keys
  reads : ∀ x, s'.module.Reads x ↔ s.module.Reads x
  imports : ∀ library, s'.module.imports library = s.module.imports library

namespace Schema.Extends

theorem refl (s : Schema) : s.Extends s := ⟨rfl, rfl, id, fun _ => .rfl, fun _ => rfl⟩

theorem trans (h : s.Extends s') (h' : s'.Extends s'') : s.Extends s'' where
  path := h'.path.trans h.path
  dialect := h'.dialect.trans h.dialect
  keyed := h'.keyed ∘ h.keyed
  reads x := (h'.reads x).trans (h.reads x)
  imports library := (h'.imports library).trans (h.imports library)

end Schema.Extends

/-- A schema that gets a field extends the one that it was. -/
theorem extends_of_add (hspace : IsName settings.space)
    (h : s.add name type settings = .ok (true, s')) : s.Extends s' := by
  have hgets := Schema.gets_of_add h
  obtain ⟨place, span, props, property, hat, hfield, hmodule⟩ := fieldsAt_of_add hspace h
  refine ⟨hgets.path, hgets.dialect, fun hkeys => Names.ext fun x => ?_, fun x => ?_, fun library => ?_⟩
  · rw [hgets.declared, Names.mem_insert, hgets.keys hspace, hkeys, or_comm]
  · rw [hmodule]
    exact hat.reads_put hfield
  · rw [hmodule]
    exact hat.imports_put _

namespace Schema.Adds

/-- **A schema that gets fields extends the one that it was.** -/
theorem toExtends (hspace : IsName settings.space) (h : s.Adds settings adds s') : s.Extends s' := by
  induction h with
  | nil s => exact .refl s
  | cons hadd _ ih => exact (extends_of_add hspace hadd).trans ih

/-- The names of the fields wait to be written, behind those that waited before. -/
theorem pending (h : s.Adds settings adds s') : s'.pending = s.pending ++ adds.map (·.1) := by
  induction h with
  | nil s => exact (List.append_nil _).symm
  | cons hadd _ ih =>
    rw [ih, (Schema.gets_of_add hadd).pending, List.append_assoc]
    rfl

/-- A schema that gets fields binds the server's object. -/
theorem mem_boundNames (hspace : IsName settings.space) (h : s.Adds settings adds s')
    (hne : adds ≠ []) : settings.object ∈ s'.module.boundNames := by
  cases h with
  | nil => exact absurd rfl hne
  | cons hadd hadds =>
    obtain ⟨place, span, props, -, hat, -, -⟩ := fieldsAt_of_add hspace hadd
    obtain ⟨properties, -, hat'⟩ := fieldsAt_after_adds hspace hat (.cons hadd hadds)
    exact hat'.mem_boundNames

end Schema.Adds

end EnvSchema
