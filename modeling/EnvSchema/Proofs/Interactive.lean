import EnvSchema.Check
import EnvSchema.Proofs.Offering
import EnvSchema.Proofs.Project.Sources

/-!
# A check that offers what it misses

The check goes over the schema twice. What the second pass misses hangs on what the first one added,
and a name may be declined in one pass and added in the other. Still the report, the questions and the
names that are declared in the end fit together:

* `checkEnvironment_fixes`, `checkSources_fixes` — what each pass finds and offers;
* `remediate_eq_ok`, `checkEnvironment_eq_ok`, `checkSources_eq_ok` — what comes of offering it;
* `check_eq_ok` — a check that does not fail is made of two passes that do not;
* `Report.Follows` — how a report, the replies of the user and the names that are declared in the end
  hang together;
* `check_interactive` — **they do so after every check that does not fail**.
-/

namespace EnvSchema

open Files (Tree)

variable {c : CheckContext} {p : Prompter} {settings : SchemaSettings} {missing : Names}
  {added : List String} {e e' : Editing} {s s' : Session} {report : Report}

/-! ### Printing and saving -/

/-- All of a state but what has been printed. -/
def Editing.unprinted (e : Editing) : (Tree × List Question) × Schema :=
  ((e.session.tree, e.session.asked), e.schema)

/-- Printing a line changes nothing else. -/
theorem say_keeps (line : String) : Keeps (fun s : Session => (s.tree, s.asked)) (Run.say line) :=
  .modify fun _ => rfl

/-- Printing lines changes nothing else. -/
theorem sayAll_keeps (lines : List String) :
    Keeps (fun s : Session => (s.tree, s.asked)) (sayAll lines) := by
  induction lines with
  | nil => exact .pure ()
  | cons l ls ih => exact .bind (say_keeps l) fun _ => ih

/-- Saving asks nothing, and the same names are declared. -/
theorem Edit.asked_save {isWritten : Bool} (h : Edit.save e = .ok isWritten e') :
    e'.session.asked = e.session.asked ∧ e'.schema.declared = e.schema.declared := by
  rcases Edit.save_eq_ok h with ⟨-, -, rfl⟩ | ⟨-, -, t, -, hsession, hread⟩
  · exact ⟨rfl, rfl⟩
  · rw [hsession]
    exact ⟨rfl, (Schema.readBack_eq_ok hread).2.1⟩

/-- **A remediation that does not fail** offers the names of the set, in their order. -/
theorem remediate_eq_ok (h : remediate p settings missing e = .ok added e') :
    ∃ d, OfferedAll p missing.toList e d added e' := by
  obtain ⟨names, e₁, hoffer, h⟩ := bind_eq_ok_iff.1 h
  obtain ⟨isWritten, e₂, hsave, h⟩ := bind_eq_ok_iff.1 h
  cases h
  obtain ⟨d, hall⟩ := offerAll_eq_ok missing.toList_nodup hoffer
  obtain ⟨hasked, hdeclared⟩ := Edit.asked_save hsave
  exact ⟨d, hall.to_eq hasked hdeclared⟩

/-! ### The passes -/

/-- **What the first pass does**: it finds what the project runs with and the schema does not declare,
and offers it once lines have been printed, if it is anything. -/
theorem checkEnvironment_fixes (h : checkEnvironment c e = .ok (missing, added) e') :
    ∃ environment e₁,
      Project.environment e.session.tree c.layout.root c.project.environment c.process =
        .ok environment ∧
      missing = environment.without e.schema.declared ∧ e₁.unprinted = e.unprinted ∧
      (missing = {} ∧ added = [] ∧ e' = e₁ ∨ c.fix missing e₁ = .ok added e') := by
  -- one step after the other; the lines that are printed leave all else as it was
  obtain ⟨environment, e₁, h₁, hlook⟩ := bind_eq_ok_iff.1 h
  obtain ⟨henvironment, rfl⟩ := Edit.look_eq_ok_iff.1 h₁
  obtain ⟨schema, e₂, h₂, hschema⟩ := bind_eq_ok_iff.1 hlook
  cases h₂
  obtain ⟨_, e₃, h₃, hlines⟩ := bind_eq_ok_iff.1 hschema
  have hkept₃ : e₃.unprinted = e₁.unprinted := (sayAll_keeps _).lift.ok h₃
  split at hlines
  next hempty =>
    obtain ⟨_, e₄, h₄, hsay⟩ := bind_eq_ok_iff.1 hlines
    have hkept₄ : e₄.unprinted = e₃.unprinted := (say_keeps _).lift.ok h₄
    cases hsay
    exact ⟨environment, e', henvironment, (Names.eq_empty_of_isEmpty hempty).symm,
      hkept₄.trans hkept₃, .inl ⟨rfl, rfl, rfl⟩⟩
  next =>
    obtain ⟨_, e₄, h₄, hsay⟩ := bind_eq_ok_iff.1 hlines
    have hkept₄ : e₄.unprinted = e₃.unprinted := (say_keeps _).lift.ok h₄
    obtain ⟨names, e₅, h₅, hfix⟩ := bind_eq_ok_iff.1 hsay
    cases hfix
    exact ⟨environment, e₄, henvironment, rfl, hkept₄.trans hkept₃, .inr h₅⟩

/-- **What the second pass does**: it finds what the sources read and the schema does not declare, and
offers it once lines have been printed, if it is anything. -/
theorem checkSources_fixes (h : checkSources c e = .ok (missing, added) e') :
    ∃ sources e₁,
      Project.sourceFiles e.session.tree c.layout.sources c.user.extensions c.project.scan.exclude =
        .ok sources ∧
      Project.undeclaredInAll e.session.tree e.schema.declared sources = .ok missing ∧
      e₁.unprinted = e.unprinted ∧
      (missing = {} ∧ added = [] ∧ e' = e₁ ∨ c.fix missing e₁ = .ok added e') := by
  -- as in the first pass, but the files are asked only once it is known what is declared
  obtain ⟨schema, e₁, h₁, hschema⟩ := bind_eq_ok_iff.1 h
  cases h₁
  obtain ⟨found, e₂, h₂, hlook⟩ := bind_eq_ok_iff.1 hschema
  obtain ⟨hfiles, rfl⟩ := Edit.look_eq_ok_iff.1 h₂
  obtain ⟨sources, hsources, hfound⟩ := except_bind_eq_ok_iff.1 hfiles
  split at hlook
  next hempty =>
    obtain ⟨_, e₃, h₃, hsay⟩ := bind_eq_ok_iff.1 hlook
    have hkept₃ : e₃.unprinted = e₂.unprinted := (say_keeps _).lift.ok h₃
    cases hsay
    rw [Names.eq_empty_of_isEmpty hempty] at hfound
    exact ⟨sources, e', hsources, hfound, hkept₃, .inl ⟨rfl, rfl, rfl⟩⟩
  next =>
    obtain ⟨_, e₃, h₃, hlines⟩ := bind_eq_ok_iff.1 hlook
    have hkept₃ : e₃.unprinted = e₂.unprinted := (sayAll_keeps _).lift.ok h₃
    obtain ⟨_, e₄, h₄, hsay⟩ := bind_eq_ok_iff.1 hlines
    have hkept₄ : e₄.unprinted = e₃.unprinted := (say_keeps _).lift.ok h₄
    obtain ⟨names, e₅, h₅, hfix⟩ := bind_eq_ok_iff.1 hsay
    cases hfix
    exact ⟨sources, e₄, hsources, hfound, hkept₄.trans hkept₃, .inr h₅⟩

/-- What comes of the offers of a pass, if it makes any. -/
private theorem offered_of_fixes (hm : c.mode = .interactive) {e₁ : Editing}
    (hkept : e₁.unprinted = e.unprinted)
    (h : missing = {} ∧ added = [] ∧ e' = e₁ ∨ c.fix missing e₁ = .ok added e') :
    ∃ d, OfferedAll c.prompter missing.toList e d added e' := by
  have hasked : e₁.session.asked = e.session.asked := congrArg (·.1.2) hkept
  have hdeclared : e₁.schema.declared = e.schema.declared := congrArg (·.2.declared) hkept
  rcases h with ⟨rfl, rfl, rfl⟩ | hfix
  · exact ⟨[], (OfferedAll.nil _ _).to_eq hasked hdeclared⟩
  · unfold CheckContext.fix at hfix
    rw [hm] at hfix
    obtain ⟨d, hall⟩ := remediate_eq_ok hfix
    exact ⟨d, hall.from_eq hasked hdeclared⟩

/-- **The first pass** finds what the project runs with and the schema does not declare, and offers
it. -/
theorem checkEnvironment_eq_ok (hm : c.mode = .interactive)
    (h : checkEnvironment c e = .ok (missing, added) e') :
    ∃ environment d,
      Project.environment e.session.tree c.layout.root c.project.environment c.process =
        .ok environment ∧
      missing = environment.without e.schema.declared ∧
      OfferedAll c.prompter missing.toList e d added e' := by
  obtain ⟨environment, e₁, henvironment, hmissing, hkept, hfix⟩ := checkEnvironment_fixes h
  obtain ⟨d, hall⟩ := offered_of_fixes hm hkept hfix
  exact ⟨environment, d, henvironment, hmissing, hall⟩

/-- **The second pass** finds what the sources read and the schema does not declare, and offers it. -/
theorem checkSources_eq_ok (hm : c.mode = .interactive)
    (h : checkSources c e = .ok (missing, added) e') :
    ∃ sources d,
      Project.sourceFiles e.session.tree c.layout.sources c.user.extensions c.project.scan.exclude =
        .ok sources ∧
      Project.undeclaredInAll e.session.tree e.schema.declared sources = .ok missing ∧
      OfferedAll c.prompter missing.toList e d added e' := by
  obtain ⟨sources, e₁, hsources, hfound, hkept, hfix⟩ := checkSources_fixes h
  obtain ⟨d, hall⟩ := offered_of_fixes hm hkept hfix
  exact ⟨sources, d, hsources, hfound, hall⟩

/-- **A check that does not fail** is made of two passes over the schema that do not. -/
theorem check_eq_ok (h : check c s = .ok report s') :
    ∃ schema addedFirst between addedThen final,
      c.schema s.tree = .ok schema ∧
      checkEnvironment c ⟨s, schema⟩ = .ok (report.missingInEnvironment, addedFirst) between ∧
      checkSources c between = .ok (report.missingInSources, addedThen) ⟨s', final⟩ ∧
      report.added = addedFirst ++ addedThen ∧
      checkBoth c ⟨s, schema⟩ = .ok report ⟨s', final⟩ := by
  -- the schema is looked up first, and the two halves of the check run on it one behind the other
  obtain ⟨schema, s₁, h₁, hwithin⟩ := bind_eq_ok_iff.1 h
  obtain ⟨hschema, rfl⟩ := Run.look_eq_ok_iff.1 h₁
  unfold Edit.within at hwithin
  cases hboth : checkBoth c ⟨s₁, schema⟩ with
  | error f e =>
    rw [hboth] at hwithin
    exact nomatch hwithin
  | ok r e =>
    rw [hboth] at hwithin
    cases hwithin
    obtain ⟨first, between, hfirst, hthen⟩ := bind_eq_ok_iff.1 hboth
    obtain ⟨second, e₂, hsecond, hreport⟩ := bind_eq_ok_iff.1 hthen
    cases hreport
    exact ⟨schema, first.2, between, second.2, e.schema, hschema, hfirst, hsecond, rfl, hboth⟩

/-- **Two passes that do not fail** make a check that does not. -/
theorem check_of_passes {schema : Schema} {environment found : Names} {addedFirst addedThen : List String}
    {between after : Editing} (hschema : c.schema s.tree = .ok schema)
    (hfirst : checkEnvironment c ⟨s, schema⟩ = .ok (environment, addedFirst) between)
    (hthen : checkSources c between = .ok (found, addedThen) after) :
    check c s = .ok ⟨environment, found, addedFirst ++ addedThen⟩ after.session := by
  have hlook : Run.look c.schema s = .ok schema s := Run.look_eq_ok_iff.2 ⟨hschema, rfl⟩
  -- what has been added is put together in the order of the passes
  have hboth : checkBoth c ⟨s, schema⟩ = .ok ⟨environment, found, addedFirst ++ addedThen⟩ after := by
    unfold checkBoth
    rw [bind_of_ok hfirst]
    exact bind_of_ok hthen
  unfold check
  rw [bind_of_ok hlook, Edit.within, hboth]

/-- **The two passes of a check that offers what it misses**: the schema that it loads, the variables
of the environment and the replies to their offers; the state in between; and then the files that are
searched, the replies to the offers of what is found in them, and the schema in the end. -/
structure Passes (c : CheckContext) (s : Session) (report : Report) (s' : Session) (schema : Schema)
    (environment : Names) (first : Dialogue) (between : Editing) (sources : List String)
    (second : Dialogue) (final : Schema) : Prop where
  loaded : c.schema s.tree = .ok schema
  collected : Project.environment s.tree c.layout.root c.project.environment c.process = .ok environment
  missingInEnvironment : report.missingInEnvironment = environment.without schema.declared
  passed : checkEnvironment c ⟨s, schema⟩ = .ok (report.missingInEnvironment, first.chosen) between
  offeredFirst : OfferedAll c.prompter report.missingInEnvironment.toList ⟨s, schema⟩ first first.chosen
    between
  listed : Project.sourceFiles between.session.tree c.layout.sources c.user.extensions
    c.project.scan.exclude = .ok sources
  searched : Project.undeclaredInAll between.session.tree between.schema.declared sources =
    .ok report.missingInSources
  offeredThen : OfferedAll c.prompter report.missingInSources.toList between second second.chosen
    ⟨s', final⟩
  added : report.added = first.chosen ++ second.chosen
  checked : checkBoth c ⟨s, schema⟩ = .ok report ⟨s', final⟩

/-- **A check that offers what it misses** and does not fail goes through its two passes. -/
theorem check_passes (hm : c.mode = .interactive) (h : check c s = .ok report s') :
    ∃ schema environment first between sources second final,
      Passes c s report s' schema environment first between sources second final := by
  obtain ⟨schema, addedFirst, between, addedThen, final, hschema, hfirst, hthen, hadded, hboth⟩ :=
    check_eq_ok h
  obtain ⟨environment, first, henvironment, hmissing, hofferedFirst⟩ := checkEnvironment_eq_ok hm hfirst
  obtain ⟨sources, second, hsources, hfound, hofferedThen⟩ := checkSources_eq_ok hm hthen
  -- neither pass offers a name that is declared when it starts
  have hchosenFirst : addedFirst = first.chosen := by
    refine hofferedFirst.added_eq_chosen fun x hx => ?_
    rw [hmissing] at hx
    exact (Names.mem_without.1 hx).2
  have hchosenThen : addedThen = second.chosen :=
    hofferedThen.added_eq_chosen fun x hx => (Project.readsIn_of_mem_undeclaredInAll hfound hx).2
  subst hchosenFirst hchosenThen
  exact ⟨schema, environment, first, between, sources, second, final, hschema, henvironment, hmissing,
    hfirst, hofferedFirst, hsources, hfound, hofferedThen, hadded, hboth⟩

/-! ### The report -/

/-- The names that are offered by some of the questions. -/
def offeredBy (questions : List Question) : List String := questions.filterMap Question.offered?

/-- **How the report of a check hangs together** with the names that were declared before it and those
that are declared after it, the variables of the environment, and the replies of the user in the first
pass and in the second one. -/
structure Report.Follows (report : Report) (p : Prompter) (asked : List Question)
    (declared environment : Names) (first second : Dialogue) (asked' : List Question)
    (declared' : Names) : Prop where
  /-- What the project runs with is missing if it was not declared. -/
  missingInEnvironment : report.missingInEnvironment = environment.without declared
  /-- The user was offered what each pass found, and replied. -/
  repliedFirst : p.dialogue asked report.missingInEnvironment.toList = .ok first
  repliedThen : p.dialogue (asked ++ first.questions) report.missingInSources.toList = .ok second
  /-- Nothing else was asked. -/
  asked_eq : asked' = asked ++ (first.questions ++ second.questions)
  /-- The names that were offered are those that were found, in order, pass by pass. -/
  offered : offeredBy (first.questions ++ second.questions) =
    report.missingInEnvironment.toList ++ report.missingInSources.toList
  /-- What was added is what was chosen, in order, pass by pass. -/
  added : report.added = first.chosen ++ second.chosen
  added_ordered : first.chosen.Pairwise (· < ·) ∧ second.chosen.Pairwise (· < ·)
  added_nodup : report.added.Nodup
  added_new : ∀ x ∈ report.added, x ∉ declared
  /-- The second pass found nothing that was declared or that the first pass added. -/
  missingInSources : ∀ x ∈ report.missingInSources, x ∉ declared ∧ x ∉ first.chosen
  /-- So a name was offered again only if it had been declined, or left to the user. -/
  again : ∀ x ∈ report.missingInEnvironment, x ∈ report.missingInSources →
    (x, .declined) ∈ first ∨ (x, .typed .other) ∈ first
  /-- What is declared was declared before, or was added. -/
  declared_iff : ∀ x, x ∈ declared' ↔ x ∈ declared ∨ x ∈ report.added
  /-- What is left was offered and is not declared. -/
  unresolved : ∀ x, x ∈ report.unresolved ↔
    x ∈ offeredBy (first.questions ++ second.questions) ∧ x ∉ declared'

namespace Passes

variable {schema final : Schema} {environment : Names} {first second : Dialogue} {between : Editing}
  {sources : List String}
  (h : Passes c s report s' schema environment first between sources second final)
include h

/-- In between the names are declared that were at first, and those that the first pass added. -/
theorem declared_between (x : String) :
    x ∈ between.schema.declared ↔ x ∈ schema.declared ∨ x ∈ first.chosen :=
  h.offeredFirst.declared x

/-- What is declared in the end was declared at first, or was added by one of the passes. -/
theorem declared_final (x : String) : x ∈ final.declared ↔ x ∈ schema.declared ∨ x ∈ report.added := by
  rw [h.offeredThen.declared, h.declared_between, h.added, List.mem_append, or_assoc]

/-- What the second pass finds is not declared in between. -/
theorem not_declared_between {x : String} (hx : x ∈ report.missingInSources) :
    x ∉ between.schema.declared :=
  (Project.readsIn_of_mem_undeclaredInAll h.searched hx).2

/-- The questions of the check are those of the two dialogues. -/
theorem asked_eq : s'.asked = s.asked ++ (first.questions ++ second.questions) := by
  rw [h.offeredThen.asked, h.offeredFirst.asked, List.append_assoc]

/-- The names that are offered are those that the passes find. -/
theorem offered : offeredBy (first.questions ++ second.questions) =
    report.missingInEnvironment.toList ++ report.missingInSources.toList := by
  rw [offeredBy, List.filterMap_append, Dialogue.offered_questions, Dialogue.offered_questions,
    h.offeredFirst.names_eq, h.offeredThen.names_eq]

/-- What was added was not declared before. -/
theorem added_new {x : String} (hx : x ∈ report.added) : x ∉ schema.declared := by
  rw [h.added, List.mem_append] at hx
  rcases hx with hx | hx
  · exact h.offeredFirst.not_declared hx
  · -- what was declared at first is declared in between
    exact fun hd => h.offeredThen.not_declared hx ((h.declared_between x).2 (.inl hd))

/-- No name was added twice. -/
theorem added_nodup : report.added.Nodup := by
  rw [h.added, List.nodup_append]
  refine ⟨report.missingInEnvironment.toList_nodup.sublist h.offeredFirst.added_sublist,
    report.missingInSources.toList_nodup.sublist h.offeredThen.added_sublist, ?_⟩
  -- what the first pass added is declared when the second one starts
  rintro x hx y hy rfl
  exact h.offeredThen.not_declared hy ((h.declared_between x).2 (.inr hx))

/-- What is left unresolved was found and is not declared in the end. -/
theorem mem_unresolved (x : String) : x ∈ report.unresolved ↔
    x ∈ offeredBy (first.questions ++ second.questions) ∧ x ∉ final.declared := by
  -- what was found was not declared at first, so it is declared in the end just if it was added
  have hnew (hx : x ∈ report.missingInEnvironment.toList ++ report.missingInSources.toList) :
      x ∉ schema.declared := by
    rcases List.mem_append.1 hx with hx | hx
    · have hmissing : x ∈ environment.without schema.declared := h.missingInEnvironment ▸ hx
      exact (Names.mem_without.1 hmissing).2
    · exact fun hd => h.not_declared_between hx ((h.declared_between x).2 (.inl hd))
  rw [Report.unresolved, Names.mem_ofList, List.mem_filter, decide_eq_true_iff, h.offered,
    h.declared_final]
  exact and_congr_right fun hx => by rw [not_or, and_iff_right (hnew hx)]

/-- **The report of a check** hangs together with its passes. -/
theorem follows : report.Follows c.prompter s.asked schema.declared environment first second s'.asked
    final.declared where
  missingInEnvironment := h.missingInEnvironment
  repliedFirst := h.offeredFirst.replied
  repliedThen := by
    rw [← show between.session.asked = s.asked ++ first.questions from h.offeredFirst.asked]
    exact h.offeredThen.replied
  asked_eq := h.asked_eq
  offered := h.offered
  added := h.added
  added_ordered := ⟨report.missingInEnvironment.ordered.sublist h.offeredFirst.added_sublist,
    report.missingInSources.ordered.sublist h.offeredThen.added_sublist⟩
  added_nodup := h.added_nodup
  added_new _ := h.added_new
  missingInSources x hx := by
    have hnot := h.not_declared_between hx
    rwa [h.declared_between, not_or] at hnot
  again x hx hagain := h.offeredFirst.reply_of_undeclared hx (h.not_declared_between hagain)
  declared_iff := h.declared_final
  unresolved := h.mem_unresolved

end Passes

/-- **After every check that offers what it misses and does not fail**, the report, the questions and
the schema hang together. -/
theorem check_interactive (hm : c.mode = .interactive) (h : check c s = .ok report s') :
    ∃ schema environment first second final,
      c.schema s.tree = .ok schema ∧
      Project.environment s.tree c.layout.root c.project.environment c.process = .ok environment ∧
      checkBoth c ⟨s, schema⟩ = .ok report ⟨s', final⟩ ∧
      report.Follows c.prompter s.asked schema.declared environment first second s'.asked
        final.declared := by
  obtain ⟨schema, environment, first, between, sources, second, final, hpasses⟩ := check_passes hm h
  exact ⟨schema, environment, first, second, final, hpasses.loaded, hpasses.collected, hpasses.checked,
    hpasses.follows⟩

/-! ### A check of a small project -/

/-- The second pass where the files are known that it searches, if it finds something in them. -/
theorem checkSources_of_found {sources : List String}
    (hlisted : Project.sourceFiles e.session.tree c.layout.sources c.user.extensions
      c.project.scan.exclude = .ok sources)
    (hfound : Project.undeclaredInAll e.session.tree e.schema.declared sources = .ok missing)
    (hne : missing.isEmpty = false)
    (hoffered : (do
      sayAll (missing.toList.map sourceLine)
      Run.say (missed "Some environment variables are missing in your code!")
      c.fix missing : Edit (List String)) e = .ok added e') :
    checkSources c e = .ok (missing, added) e' := by
  obtain ⟨_, e₁, h₁, hsay⟩ := bind_eq_ok_iff.1 hoffered
  obtain ⟨_, e₂, h₂, hfix⟩ := bind_eq_ok_iff.1 hsay
  -- the files are listed and searched in one look at them
  have hlook : (liftM (Run.look fun t => do
      let files ← Project.sourceFiles t c.layout.sources c.user.extensions c.project.scan.exclude
      Project.undeclaredInAll t e.schema.declared files) : Edit Names) e = .ok missing e :=
    Edit.look_eq_ok_iff.2 ⟨except_bind_eq_ok_iff.2 ⟨sources, hlisted, hfound⟩, rfl⟩
  unfold checkSources
  rw [bind_of_ok (show Edit.schema e = .ok e.schema e from rfl), bind_of_ok hlook, hne,
    if_neg Bool.false_ne_true, bind_of_ok h₁, bind_of_ok h₂, bind_of_ok hfix]
  rfl

/-- A user who wants every name, with the type that is offered first. -/
def Prompter.willing : Prompter where
  confirm _ _ := .ok true
  pick _ _ choices := .ok (choices.headD .other)

/-- A project with an empty schema and a source that reads two variables. -/
def pageSession : Session where
  tree := (Tree.empty.withFile ["app", "src", "env", "schema.mjs"]
    (.text ("import \x7b z \x7d from \"zod\";\n" ++
      "export const serverSchema = z.object(\x7b\x7d);\n"))).withFile
    ["app", "src", "page.ts"] (.text "f(process.env.A, process.env.B);\n")

/-- A check of that project, which runs with a variable of its own. -/
def pageCheck : CheckContext where
  layout := ⟨"/app", "/app/src", "/app/src/env"⟩
  user := { extensions := ["ts"] }
  prompter := .willing
  process := ["C"]

set_option maxRecDepth 20000 in
/-- That check adds what it offers, and the source reads one variable more. -/
theorem check_page : ∃ schema first between report s',
    pageCheck.schema pageSession.tree = .ok schema ∧ schema.declared.toList = [] ∧
    checkEnvironment pageCheck ⟨pageSession, schema⟩ = .ok first between ∧
    Project.sourceFiles between.session.tree pageCheck.layout.sources pageCheck.user.extensions
      pageCheck.project.scan.exclude = .ok ["/app/src/page.ts"] ∧
    Project.undeclaredIn between.session.tree (.ofList ["A"]) "/app/src/page.ts" = .ok (some "B") ∧
    check pageCheck pageSession = .ok report s' ∧ report.added = ["C", "A"] ∧
    .confirm "B" ∉ s'.asked := by
  -- each step is run where the one before ends, so that no step is run twice
  have hrun : (pageCheck.schema pageSession.tree).toOption.any (fun schema =>
      schema.declared.toList == [] &&
      (outcome? (checkEnvironment pageCheck) ⟨pageSession, schema⟩).any fun first =>
        let tree := first.2.session.tree
        ((Project.filesEnding tree "/app/src" pageCheck.project.scan.exclude "ts").toOption.any
            (· == ["/app/src/page.ts"]) &&
          (Project.undeclaredIn tree (.ofList ["A"]) "/app/src/page.ts").toOption.any
            (· == some "B")) &&
        (Project.undeclaredInAll tree first.2.schema.declared ["/app/src/page.ts"]).toOption.any
          fun missing => !missing.isEmpty &&
            (outcome? (do
              sayAll (missing.toList.map sourceLine)
              Run.say (missed "Some environment variables are missing in your code!")
              pageCheck.fix missing : Edit (List String)) first.2).any fun second =>
                first.1.2 ++ second.1 == ["C", "A"] &&
                  decide (.confirm "B" ∉ second.2.session.asked)) = true := by
    decide +kernel
  obtain ⟨schema, hschema, htest⟩ := exists_ok_of_any hrun
  obtain ⟨hdeclared, htest⟩ := Bool.and_eq_true_iff.1 htest
  obtain ⟨⟨⟨environment, addedFirst⟩, between⟩, hfirst, htest⟩ := (Option.any_eq_true _ _).1 htest
  obtain ⟨hfiles, htest⟩ := Bool.and_eq_true_iff.1 htest
  obtain ⟨hfiles, hmore⟩ := Bool.and_eq_true_iff.1 hfiles
  obtain ⟨missing, hmissing, htest⟩ := exists_ok_of_any htest
  obtain ⟨hne, htest⟩ := Bool.and_eq_true_iff.1 htest
  obtain ⟨⟨addedThen, after⟩, hsecond, htest⟩ := (Option.any_eq_true _ _).1 htest
  obtain ⟨hadded, hasked⟩ := Bool.and_eq_true_iff.1 htest
  obtain ⟨found, hfound, hpath⟩ := exists_ok_of_any hfiles
  obtain rfl : found = ["/app/src/page.ts"] := eq_of_beq hpath
  obtain ⟨next, hnext, hname⟩ := exists_ok_of_any hmore
  obtain rfl : next = some "B" := eq_of_beq hname
  have hlisted := Project.sourceFiles_of_one hfound
  have hfirst := outcome?_eq_some_iff.1 hfirst
  have hthen := checkSources_of_found (c := pageCheck) hlisted hmissing (by simpa using hne)
    (outcome?_eq_some_iff.1 hsecond)
  refine ⟨schema, (environment, addedFirst), between,
    ⟨environment, missing, addedFirst ++ addedThen⟩, after.session, hschema, eq_of_beq hdeclared,
    hfirst, hlisted, hnext, ?_, eq_of_beq hadded, of_decide_eq_true hasked⟩
  exact check_of_passes hschema hfirst hthen

/-- The report of that check hangs together with its questions and its schema. -/
theorem check_interactive_page : ∃ report s', pageCheck.mode = .interactive ∧
    check pageCheck pageSession = .ok report s' ∧ report.added = ["C", "A"] ∧
    ∃ schema environment first second final,
      pageCheck.schema pageSession.tree = .ok schema ∧
      Project.environment pageSession.tree pageCheck.layout.root pageCheck.project.environment
        pageCheck.process = .ok environment ∧
      checkBoth pageCheck ⟨pageSession, schema⟩ = .ok report ⟨s', final⟩ ∧
      report.Follows pageCheck.prompter pageSession.asked schema.declared environment first second
        s'.asked final.declared := by
  obtain ⟨-, -, -, report, s', -, -, -, -, -, hcheck, hadded, -⟩ := check_page
  exact ⟨report, s', rfl, hcheck, hadded, check_interactive rfl hcheck⟩

end EnvSchema
