import EnvSchema.Proofs.Interactive

/-!
# Which undeclared names the user is asked about

A check that offers what it misses asks about every variable that the project runs with and the schema
does not declare. Of the variables that a source reads it finds the first one that is not declared, so
it may end without having asked about the others:

* `mem_offered_iff` — **the names that the user was asked about**, of all that are not declared in the
  end;
* `mem_offered_of_alone` — what a source reads and the schema lacks is asked about if the source lacks
  nothing else;
* `exists_offered` — every source that lacks something is asked about one name at least;
* `unasked_page` — a variable that is read in a source that was searched, is not declared in the end,
  and was never asked about.
-/

namespace EnvSchema

open Project (ReadsIn)

variable {c : CheckContext} {s s' : Session} {report : Report}

/-- Being offered by some questions is being asked about. -/
theorem mem_offeredBy {name : String} {questions : List Question} :
    name ∈ offeredBy questions ↔ .confirm name ∈ questions := by
  rw [offeredBy, List.mem_filterMap]
  constructor
  · rintro ⟨question, hmem, hname⟩
    cases question with
    | confirm name' =>
      cases hname
      exact hmem
    | pick name' choices => cases hname
  · intro hmem
    exact ⟨.confirm name, hmem, rfl⟩

namespace Passes

variable {schema final : Schema} {environment : Names} {first second : Dialogue} {between : Editing}
  {sources : List String} {name path : String}
  (h : Passes c s report s' schema environment first between sources second final)
include h

/-- What is declared in between is declared in the end. -/
theorem declared_of_between (hd : name ∈ between.schema.declared) : name ∈ final.declared :=
  (h.offeredThen.declared name).2 (.inl hd)

/-- **The names that are asked about**, of those that are not declared in the end: the variables that
the project runs with, and the first one that each source lacks in the second pass. -/
theorem mem_offered_iff (hname : name ∉ final.declared) :
    .confirm name ∈ first.questions ++ second.questions ↔ name ∈ environment ∨
      ∃ path ∈ sources, Project.undeclaredIn between.session.tree between.schema.declared path =
        .ok (some name) := by
  have hnot : name ∉ schema.declared := fun hd => hname ((h.declared_final name).2 (.inl hd))
  rw [← mem_offeredBy, h.offered, List.mem_append, ← Names.mem_iff, ← Names.mem_iff,
    h.missingInEnvironment, Names.mem_without, and_iff_left hnot, Project.mem_undeclaredInAll h.searched]

/-- **Every source that lacks something** is asked about one name at least. -/
theorem exists_offered (hpath : path ∈ sources) (hreads : ReadsIn between.session.tree path name)
    (hname : name ∉ final.declared) :
    ∃ name', ReadsIn between.session.tree path name' ∧ name' ∉ between.schema.declared ∧
      .confirm name' ∈ first.questions ++ second.questions := by
  obtain ⟨found, hfound⟩ := Project.undeclaredIn_of_undeclaredInAll h.searched hpath
  cases found with
  | none =>
    -- then all that the source reads is declared
    have hall := (Project.undeclaredIn_eq_none_iff hfound).1 rfl
    exact absurd (h.declared_of_between (hall name hreads)) hname
  | some name' =>
    obtain ⟨hreads', hnot⟩ := Project.readsIn_of_undeclaredIn hfound
    refine ⟨name', hreads', hnot, ?_⟩
    rw [← mem_offeredBy, h.offered, List.mem_append]
    exact .inr ((Project.mem_undeclaredInAll h.searched).2 ⟨path, hpath, hfound⟩)

/-- **A name that a source reads** and that is not declared in the end is asked about, if it is the only
one that the source lacked. -/
theorem mem_offered_of_alone (hpath : path ∈ sources)
    (hreads : ReadsIn between.session.tree path name) (hname : name ∉ final.declared)
    (halone : ∀ name', ReadsIn between.session.tree path name' → name' ∉ between.schema.declared →
      name' = name) : .confirm name ∈ first.questions ++ second.questions := by
  obtain ⟨name', hreads', hnot, hasked⟩ := h.exists_offered hpath hreads hname
  rwa [halone name' hreads' hnot] at hasked

end Passes

/-- **What a check that does not fail has asked about.** Every variable that the project runs with and
that is not declared in the end is among it. Of those that the sources read it is just the first one
that each source lacks in the second pass: one at least of every source that lacks any, and all of them
if no source lacks more than one. -/
theorem check_asks (hm : c.mode = .interactive) (h : check c s = .ok report s') :
    ∃ schema environment first between sources second final,
      Passes c s report s' schema environment first between sources second final ∧
      s'.asked = s.asked ++ (first.questions ++ second.questions) ∧
      (∀ name, name ∉ final.declared →
        (.confirm name ∈ first.questions ++ second.questions ↔ name ∈ environment ∨
          ∃ path ∈ sources, Project.undeclaredIn between.session.tree between.schema.declared path =
            .ok (some name))) ∧
      ∀ path ∈ sources, ∀ name, ReadsIn between.session.tree path name → name ∉ final.declared →
        (∃ name', ReadsIn between.session.tree path name' ∧ name' ∉ between.schema.declared ∧
          .confirm name' ∈ first.questions ++ second.questions) ∧
        ((∀ name', ReadsIn between.session.tree path name' → name' ∉ between.schema.declared →
          name' = name) → .confirm name ∈ first.questions ++ second.questions) := by
  -- both statements are about the second pass, which the first one has prepared
  obtain ⟨schema, environment, first, between, sources, second, final, hpasses⟩ := check_passes hm h
  refine ⟨schema, environment, first, between, sources, second, final, hpasses, hpasses.asked_eq, ?_, ?_⟩
  · intro name hname
    exact hpasses.mem_offered_iff hname
  · intro path hpath name hreads hname
    refine ⟨hpasses.exists_offered hpath hreads hname, fun halone => ?_⟩
    exact hpasses.mem_offered_of_alone hpath hreads hname halone

/-- What the check of the small project has asked about. -/
theorem check_asks_page : ∃ report s', pageCheck.mode = .interactive ∧
    check pageCheck pageSession = .ok report s' ∧
    ∃ schema environment first between sources second final,
      Passes pageCheck pageSession report s' schema environment first between sources second final ∧
      ∀ name, name ∉ final.declared →
        (.confirm name ∈ first.questions ++ second.questions ↔ name ∈ environment ∨
          ∃ path ∈ sources, Project.undeclaredIn between.session.tree between.schema.declared path =
            .ok (some name)) := by
  obtain ⟨-, -, -, report, s', -, -, -, -, -, hcheck, -⟩ := check_page
  obtain ⟨schema, environment, first, between, sources, second, final, hpasses, -, hiff, -⟩ :=
    check_asks rfl hcheck
  exact ⟨report, s', rfl, hcheck, schema, environment, first, between, sources, second, final, hpasses,
    hiff⟩

/-- **A variable that is never asked about**, though it is read in a source that was searched and is
not declared in the end: the source reads another one before it. -/
theorem unasked_page : ∃ report s', check pageCheck pageSession = .ok report s' ∧
    ∃ schema environment first between sources second final,
      Passes pageCheck pageSession report s' schema environment first between sources second final ∧
      (∃ path ∈ sources, ReadsIn between.session.tree path "B") ∧ "B" ∉ final.declared ∧
      .confirm "B" ∉ s'.asked := by
  obtain ⟨schema₀, found, between₀, report, s', hschema, hdeclared, hfirst, hlisted, hnext, hcheck,
    hadded, hasked⟩ := check_page
  obtain ⟨schema, environment, first, between, sources, second, final, hpasses⟩ := check_passes rfl hcheck
  -- the passes of the check are the ones that have been followed
  obtain rfl : schema = schema₀ := Except.ok.inj (hpasses.loaded.symm.trans hschema)
  have hbetween := hpasses.passed.symm.trans hfirst
  injection hbetween with _ hbetween
  subst hbetween
  obtain rfl : sources = ["/app/src/page.ts"] := Except.ok.inj (hpasses.listed.symm.trans hlisted)
  have hreads := (Project.readsIn_of_undeclaredIn hnext).1
  refine ⟨report, s', hcheck, schema, environment, first, between, _, second, final, hpasses,
    ⟨_, List.mem_singleton.2 rfl, hreads⟩, ?_, hasked⟩
  rw [hpasses.declared_final, Names.mem_iff, hdeclared, hadded]
  decide

end EnvSchema
