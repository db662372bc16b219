/-!
# Dialects of the script language

The grammar a source file is read with. Three questions about a dialect steer the reader:

* `Dialect.hasJsx` — may elements such as `<p/>` stand where an expression stands;
* `Dialect.hasTypes` — may type annotations and type declarations be written;
* `Dialect.ofExtension?` — which dialect a file name's extension selects.
-/

namespace EnvSchema.Script

/-- **The grammar a source file is read with.** -/
inductive Dialect where
  /-- Plain modules, without elements: the env modules themselves. -/
  | module
  /-- Plain modules whose expressions may be elements. -/
  | jsx
  /-- Modules with types; `jsx` says whether elements are allowed as well. -/
  | typescript (jsx : Bool)
  deriving Repr, DecidableEq, Inhabited

namespace Dialect

/-- Whether elements are part of the grammar. -/
def hasJsx : Dialect → Bool
  | module => false
  | jsx => true
  | typescript j => j

/-- Whether types are part of the grammar. -/
def hasTypes : Dialect → Bool
  | typescript _ => true
  | _ => false

/-- The dialect that a file name's extension selects, if it is one of a script. -/
def ofExtension? : String → Option Dialect
  | "mjs" | "cjs" => some module
  | "js" | "jsx" => some jsx
  | "ts" | "mts" | "cts" => some (typescript false)
  | "tsx" => some (typescript true)
  | _ => none

end Dialect

end EnvSchema.Script
