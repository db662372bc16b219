import EnvSchema.Script.Reader.Expressions
import EnvSchema.Script.Reader.Modules

/-!
# Whole scripts

Here the readers of phrases that contain one another are tied together: the grammar of some depth
takes the readers of what is within a phrase from the grammar one level less deep.

* `Grammar.ofDepth` — the grammar of texts up to a depth;
* `Read.module` — the items of a module, up to the end;
* `Reader.ofText` — the state before the first token.
-/

namespace EnvSchema.Script

/-- **The grammar of texts up to a depth.** -/
def Grammar.ofDepth : Nat → Grammar
  | 0 => .none
  | depth + 1 =>
    { expr := fun r => Read.sequence (ofDepth depth) r
      assign := fun r => Read.assignment (ofDepth depth) r
      unary := fun r => Read.unaryOf (ofDepth depth) r
      leftHand := fun r => Read.leftHandOf (ofDepth depth) r
      memberOrNew := fun isNew r => Read.memberOrNewOf (ofDepth depth) isNew r
      subscripts := fun n noCall noComputed r =>
        Read.subscriptsOf (ofDepth depth) n noCall noComputed r
      pattern := fun noLet r => Read.bindingPattern (ofDepth depth) noLet r
      statement := fun r => Read.innerStatement (ofDepth depth) false r
      statementItem := fun r => Read.innerStatement (ofDepth depth) true r
      moduleItem := fun r => Read.moduleItemOf (ofDepth depth) r
      block := fun directives r => Read.blockOf (ofDepth depth) directives r
      type := fun r => Read.wholeType (ofDepth depth) r
      operatorType := fun r => Read.prefixedType (ofDepth depth) r
      element := fun r => Read.element (ofDepth depth) r
      innerNamespace := fun r => Read.innerNamespace (ofDepth depth) r }

namespace Reader

/-- **The state before the first token** of a text that starts at a place. -/
def ofText (dialect : Dialect) (start : Nat) (text : List Char) : Reader :=
  { dialect := dialect, start := start, text := text, size := text.length, rest := text
    pos := start, lastEnd := start, prevSpan := .point start, tokenStart := start }

/-- A depth that no text of the reader's size exceeds: a phrase within another one takes a token,
and no token is reached through more than a few phrases. -/
def depth (r : Reader) : Nat := 16 * (r.size + 4)

end Reader

namespace Read

/-- What a module is made of. -/
structure Contents where
  /-- From the first token to the last one. -/
  span : Span
  /-- The first line, if it names an interpreter. -/
  hashbang : Option String
  items : List Node

/-- **The contents of a module.** -/
def module : Read Contents :=
  within (fun c => { c with isModule := true, strict := true }) do
    let g := Grammar.ofDepth (← get).depth
    let start ← curPos
    let hashbang ← match ← cur? with
      | some (.hashbang text) =>
        bump
        pure (some text)
      | _ => pure none
    let items ← loop ([] : List Node) fun out => do
      if ← seesEnd then return .inr out
      return .inl (out ++ [← moduleItemOf g])
    return ⟨← spanFrom start, hashbang, items⟩

/-- One expression, which the text may go on behind. -/
def expression : Read Node := do
  (Grammar.ofDepth (← get).depth).expr

end Read

end EnvSchema.Script
