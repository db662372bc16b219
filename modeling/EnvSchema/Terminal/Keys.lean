/-!
# Keys

What is typed on a terminal arrives as characters, some of which stand for keys without a letter.

* `Key`, `Key.read` — the keys that characters stand for.
-/

namespace EnvSchema.Terminal

/-- **A key.** -/
inductive Key where
  | char (c : Char)
  | enter
  | backspace
  | up
  | down
  | escape
  /-- Control and C together. -/
  | interrupt
  /-- A key without a meaning here. -/
  | other
  deriving Repr, DecidableEq

/-- **The keys that characters stand for.** -/
def Key.read : List Char → List Key
  | '\x1b' :: '[' :: c :: cs =>
    (if c = 'A' then .up else if c = 'B' then .down else .other) :: Key.read cs
  | '\x1b' :: cs => .escape :: Key.read cs
  | '\r' :: cs => .enter :: Key.read cs
  | '\x7f' :: cs => .backspace :: Key.read cs
  | '\x03' :: cs => .interrupt :: Key.read cs
  | c :: cs => (if c.toNat < 0x20 then .other else .char c) :: Key.read cs
  | [] => []

end EnvSchema.Terminal
