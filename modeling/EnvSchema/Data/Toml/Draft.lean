import EnvSchema.Data.Toml.Fault

/-!
# Making a document

A document is made line by line: a header starts a table, and keys with values go into the table
that was started last. A key with dots leads through tables that it names. No table may be started
twice, and no key may be given two values.

* `Table.within` — what is done to the table at the end of a path;
* `Table.ofFields` — a table in braces;
* `Draft` — what has been made so far;
* `Draft.field`, `Draft.header`, `Draft.elementHeader` — one more line;
* `Draft.close` — the document.
-/

namespace EnvSchema.Data.Toml

/-- The names on a path. -/
def names (path : List Key) : List String := path.map (·.name)

/-! ### Paths -/

/-- **What a path leads to.** -/
inductive Way where
  /-- A table with a header. -/
  | toHeader
  /-- A key with a value. -/
  | toKey
  /-- A key with a value in a table in braces. -/
  | inBraces
  deriving Repr, DecidableEq

/-- How a table comes to be that a path names first. -/
def Way.form : Way → TableForm
  | toHeader => .onTheWay
  | toKey | inBraces => .dotted

/-- Whether a path may lead through a table. -/
def Way.through (w : Way) (path : List String) (key : Key) (t : Table) : Except Cause Unit :=
  if w != .inBraces && t.form = .braces then .error (.notTable path (Item.table t).kind)
  else if w != .toHeader && !t.form.isImplicit then .error (.duplicate key.name none)
  else .ok ()

/-- **Does something to the table at the end of a path**, and answers what comes of it with the
table that the path starts from. Tables on the way that are not there are made. Of tables in double
brackets the last one is meant. `before` is the way that led here. -/
def Table.within {β : Type} (w : Way) (act : Table → Except Cause (β × Table)) :
    List String → List Key → Table → Except Cause (β × Table)
  | _, [], t => act t
  | before, k :: ks, t => do
    let path := before ++ [k.name]
    match t.find? k.name with
    | none =>
      let (b, inner) ← Table.within w act path ks { form := w.form }
      return (b, t.insert k (.table inner))
    | some (.table inner) =>
      w.through path k inner
      let (b, inner) ← Table.within w act path ks inner
      return (b, t.insert k (.table inner))
    | some (.tables ts) =>
      let (b, last) ← Table.within w act path ks (ts.getLastD default)
      return (b, t.insert k (.tables (ts.dropLast ++ [last])))
    | some value => .error (.notTable path value.kind)

/-- A table in which the one at the end of a path is changed. -/
def Table.change (w : Way) (change : Table → Except Cause Table) (path : List Key) (t : Table) :
    Except Cause Table := do
  return (← Table.within w (fun t => do return ((), ← change t)) [] path t).2

/-- A table with one more key. A table that was named on the way to another one may not be given
keys behind a dot. -/
def Table.add (isDotted : Bool) (table : Option (List String)) (key : Key) (value : Item) (t : Table) :
    Except Cause Table :=
  if isDotted && t.form != .dotted then .error (.duplicate key.name none)
  else if (t.find? key.name).isSome then .error (.duplicate key.name table)
  else .ok (t.insert key value)

/-- **A key with the path that stands before it, and its value.** -/
structure Field where
  path : List Key
  key : Key
  value : Item

/-- **The table in braces with some fields.** -/
def Table.ofFields (fields : List Field) : Except Cause Table :=
  fields.foldlM
    (fun t f => Table.change .inBraces (Table.add (!f.path.isEmpty) none f.key f.value) f.path t)
    { form := .braces }

/-! ### Drafts -/

/-- **What has been made of a document.** -/
structure Draft where
  /-- The tables that are done. -/
  root : Table := { form := .header }
  /-- The table that was started last. -/
  current : Table
  /-- The path in its header, and the key at the end of it; none before the first header. -/
  path : Option (List Key × Key) := none
  /-- Whether its header stands in double brackets. -/
  isElement : Bool := false

namespace Draft

/-- The names on the way to the table that was started last. -/
def way (d : Draft) : List String :=
  match d.path with
  | none => []
  | some (parents, key) => names parents ++ [key.name]

/-- **One more field** of the table that was started last. -/
def field (d : Draft) (f : Field) : Except Cause Draft := do
  let span := match d.current.span, f.value.span? with
    | some s, some v => some ⟨s.start, v.stop⟩
    | s, _ => s
  let current ← Table.change .toKey (Table.add (!f.path.isEmpty) (some d.way) f.key f.value) f.path
    { d.current with span := span }
  return { d with current := current }

/-- **The tables that are done, with the one that was started last.** -/
def close (d : Draft) : Except Cause Table :=
  match d.path with
  | none => .ok d.current
  | some (parents, key) =>
    Table.change .toHeader
      (fun t =>
        match d.isElement, t.find? key.name with
        | true, some (.tables ts) => .ok (t.insert key (.tables (ts ++ [d.current])))
        | true, _ => .ok (t.insert key (.tables [d.current]))
        | false, _ => .ok (t.insert key (.table d.current)))
      parents d.root

/-- A key that has a value already where a header stands. -/
def duplicate (parents : List Key) (key : Key) : Cause := .duplicate key.name (some (names parents))

/-- **A header.** What was named on the way to another table may be started with it; it stays apart
from the other tables until it is done. -/
def header (d : Draft) (parents : List Key) (key : Key) (span : Span) : Except Cause Draft := do
  let (current, root) ← Table.within .toHeader
    (fun t =>
      match t.find? key.name with
      | none => .ok ({ form := .header }, t)
      | some (.table inner) =>
        if inner.form = .onTheWay then .ok (inner, t.erase key.name)
        else .error (duplicate parents key)
      | some _ => .error (duplicate parents key))
    [] parents (← d.close)
  return { root, current := { current with form := .header, span := some span }
           path := some (parents, key) }

/-- **A header in double brackets.** -/
def elementHeader (d : Draft) (parents : List Key) (key : Key) (span : Span) : Except Cause Draft := do
  let root ← Table.change .toHeader
    (fun t =>
      match t.find? key.name with
      | none => .ok (t.insert key (.tables []))
      | some (.tables _) => .ok t
      | some _ => .error (duplicate parents key))
    parents (← d.close)
  return { root, current := { form := .header, span := some span }
           path := some (parents, key), isElement := true }

end Draft

end EnvSchema.Data.Toml
