import EnvSchema.Data.Mismatch
import EnvSchema.Number.Reading
import EnvSchema.Text.Columns

/-!
# Reading JSON

A JSON text is read value by value, and each reader says what kind of value it expects. A value that
nobody expects is skipped.

* `Read` — a computation on the text that has not been read yet;
* `Complaint.message` — why a text cannot be read, with the line and the column, counted in bytes;
* `text`, `optional`, `textKeys` — values of the kinds that are expected;
* `entries`, `hasElement` — objects key by key, and lists element by element;
* `skip` — any value.
-/

namespace EnvSchema.Data.Json

/-! ### Faults -/

/-- **Why a text cannot be read.** -/
inductive Fault where
  | listEnds
  | objectEnds
  | stringEnds
  | valueEnds
  | colon
  | listGoesOn
  | objectGoesOn
  | word
  | value
  | escape
  | number
  | numberRange
  | control
  | key
  | lonelySurrogate
  | trailingComma
  | trailing
  | hexEnds
  /-- A value is not what the reader of the text expects. -/
  | unexpected (message : String)
  deriving Repr, DecidableEq

/-- How a fault is reported. -/
def Fault.message : Fault → String
  | listEnds => "EOF while parsing a list"
  | objectEnds => "EOF while parsing an object"
  | stringEnds => "EOF while parsing a string"
  | valueEnds => "EOF while parsing a value"
  | colon => "expected `:`"
  | listGoesOn => "expected `,` or `]`"
  | objectGoesOn => "expected `,` or `\x7d`"
  | word => "expected ident"
  | value => "expected value"
  | escape => "invalid escape"
  | number => "invalid number"
  | numberRange => "number out of range"
  | control => "control character (\\u0000-\\u001F) found while parsing a string"
  | key => "key must be a string"
  | lonelySurrogate => "lone leading surrogate in hex escape"
  | trailingComma => "trailing comma"
  | trailing => "trailing characters"
  | hexEnds => "unexpected end of hex escape"
  | unexpected message => message

/-- **A fault, and how many bytes are left behind it.** -/
structure Complaint where
  fault : Fault
  left : Nat
  deriving Repr, DecidableEq

/-- The text without its last bytes. -/
def upTo (left : Nat) (cs : List Char) : List UInt8 :=
  let all := (String.ofList cs).toUTF8.toList
  all.take (all.length - left)

/-- How a complaint about a text is reported. -/
def Complaint.message (c : Complaint) (text : String) : String :=
  let before := upTo c.left text.toList
  let line := before.count 10
  let column := (before.reverse.takeWhile (· != 10)).length
  c.fault.message ++ " at line " ++ toString (line + 1) ++ " column " ++ toString column

/-! ### Single characters -/

/-- **A computation on the text that has not been read yet.** -/
abbrev Read := EStateM Complaint (List Char)

/-- Fails behind what has been read. -/
def fail {α : Type} (f : Fault) : Read α := do throw ⟨f, Text.bytes (← get)⟩

/-- Fails behind the byte that comes next. -/
def failNext {α : Type} (f : Fault) : Read α := do throw ⟨f, Text.bytes (← get) - 1⟩

/-- The next character. -/
def peek : Read (Option Char) := return (← get).head?

/-- Whether the next character is the given one. -/
def isNext (c : Char) : Read Bool := return (← peek) == some c

/-- Passes over a character. -/
def pass : Read Unit := modify (·.drop 1)

/-- Takes the next character, or fails. -/
def take (f : Fault) : Read Char := do
  match ← get with
  | [] => fail f
  | c :: cs => set cs; return c

/-- The characters that may stand between values. -/
def isSpace (c : Char) : Bool := c == ' ' || c == '\n' || c == '\t' || c == '\r'

/-- The next character that is no space. -/
def peekSolid : Read (Option Char) := do
  modify (·.dropWhile isSpace)
  peek

/-- The rest of a word. -/
def word : List Char → Read Unit
  | [] => return
  | c :: cs => do
    if (← take .valueEnds) == c then word cs else fail .word

/-! ### Strings -/

/-- Four digits of an escape. -/
def fourDigits : Read Nat := do
  let cs ← get
  if Text.bytes cs < 4 then
    set ([] : List Char)
    fail .stringEnds
  else
    match (cs.take 4).mapM (Number.digitValue? 16) with
    | some ds =>
      set (cs.drop 4)
      return ds.foldl (fun n d => 16 * n + d) 0
    | none => throw ⟨.escape, Text.bytes cs - 4⟩

/-- The second half of a character beyond the first plane. -/
def surrogateBehind (first : Nat) : Read Char := do
  for c in ['\\', 'u'] do
    if (← peek).isNone then fail .stringEnds
    if (← take .stringEnds) != c then fail .hexEnds
  let second ← fourDigits
  if second < 0xDC00 || 0xDFFF < second then fail .lonelySurrogate
  return Char.ofNat ((first - 0xD800) * 0x400 + (second - 0xDC00) + 0x10000)

/-- The character that an escape stands for. -/
def escape : Read Char := do
  match ← take .stringEnds with
  | '"' => return '"'
  | '\\' => return '\\'
  | '/' => return '/'
  | 'b' => return '\x08'
  | 'f' => return '\x0c'
  | 'n' => return '\n'
  | 'r' => return '\r'
  | 't' => return '\t'
  | 'u' =>
    let n ← fourDigits
    if 0xDC00 ≤ n && n ≤ 0xDFFF then fail .lonelySurrogate
    else if 0xD800 ≤ n && n ≤ 0xDBFF then surrogateBehind n
    else return Char.ofNat n
  | _ => fail .escape

/-- The characters up to the closing quote; the number bounds them. -/
def stringBehind : Nat → List Char → Read String
  | 0, _ => fail .stringEnds
  | n + 1, taken => do
    match ← take .stringEnds with
    | '"' => return String.ofList taken.reverse
    | '\\' => stringBehind n ((← escape) :: taken)
    | c => if c.toNat < 0x20 then fail .control else stringBehind n (c :: taken)

/-- A string whose opening quote has been read. -/
def string : Read String := do stringBehind ((← get).length + 1) []

/-- Passes over an escape. What it stands for does not matter. -/
def skipEscape : Read Unit := do
  match ← take .stringEnds with
  | '"' | '\\' | '/' | 'b' | 'f' | 'n' | 'r' | 't' => return
  | 'u' => let _ ← fourDigits
  | _ => fail .escape

/-- Passes over the characters up to the closing quote; the number bounds them. -/
def skipStringBehind : Nat → Read Unit
  | 0 => fail .stringEnds
  | n + 1 => do
    match ← peek with
    | none => fail .stringEnds
    | some '"' => pass
    | some '\\' => pass; skipEscape; skipStringBehind n
    | some c => if c.toNat < 0x20 then fail .control else pass; skipStringBehind n

/-- Passes over a string whose opening quote has been read. -/
def skipString : Read Unit := do skipStringBehind ((← get).length + 1)

/-! ### Numbers -/

/-- Takes the digits that come next. -/
def digits : Read (List Char) := do
  let ds := (← get).takeWhile Char.isDigit
  modify (·.drop ds.length)
  return ds

/-- The largest whole number that is kept exactly. -/
def maxExact : Nat := Nat.pow 2 64 - 1

/-- A number with more digits behind it, as far as it is kept exactly, and how many digits were
added. -/
def addDigits (n : Nat) : List Char → Nat × Nat
  | [] => (n, 0)
  | d :: ds =>
    let m := 10 * n + (d.toNat - '0'.toNat)
    if maxExact < m then (n, 0)
    else
      let (k, added) := addDigits m ds
      (k, added + 1)

/-- The largest power of ten that is a double. -/
def maxPower : Nat := 308

/-- A double times a power of ten, by at most two steps of scaling down. -/
def scaled (x : Float) (e : Int) : Float :=
  if 0 ≤ e then
    if maxPower < e.toNat then x / 0.0 else x * Float.ofScientific 1 false e.toNat
  else
    let d := (-e).toNat
    if d ≤ maxPower then x / Float.ofScientific 1 false d
    else
      let y := x / Float.ofScientific 1 false maxPower
      if maxPower < d - maxPower then 0.0 else y / Float.ofScientific 1 false (d - maxPower)

/-- The number `n * 10 ^ e`. -/
def real (isNegative : Bool) (n : Nat) (e : Int) : Read Float := do
  let x := if n == 0 then 0.0 else scaled n.toUInt64.toFloat e
  if x.isInf then fail .numberRange
  return if isNegative then -x else x

/-- The largest exponent that is kept. -/
def maxExponent : Nat := Nat.pow 2 31 - 1

/-- An exponent whose letter comes next, of a number whose digits count from `e` on. -/
def exponent (isNegative : Bool) (n : Nat) (e : Int) : Read Float := do
  pass
  let sign ← peek
  if sign == some '+' || sign == some '-' then pass
  let d ← take .valueEnds
  if !d.isDigit then fail .number
  let ds := d :: (← digits)
  let size := Number.ofDigits 10 ds
  if maxExponent < size then
    if n != 0 && sign != some '-' then fail .numberRange
    return if isNegative then -0.0 else 0.0
  else real isNegative n (if sign == some '-' then e - size else e + size)

/-- What follows the digits of a number. -/
def mantissaBehind (isNegative : Bool) (n : Nat) (e : Int) : Read Float := do
  match ← peek with
  | some 'e' | some 'E' => exponent isNegative n e
  | _ => real isNegative n e

/-- The digits behind a point that comes next. -/
def fraction (isNegative : Bool) (n : Nat) (e : Int) : Read Float := do
  pass
  let ds ← digits
  if ds.isEmpty then
    if (← peek).isNone then failNext .valueEnds else failNext .number
  let (m, added) := addDigits n ds
  mantissaBehind isNegative m (e - added)

/-- A number whose sign has been read, as something that was not expected. -/
def number (isNegative : Bool) : Read Found := do
  let d ← take .valueEnds
  if !d.isDigit then fail .number
  if d == '0' && (← peek).any Char.isDigit then failNext .number
  let ds ← digits
  let (n, added) := addDigits 0 (d :: ds)
  let dropped := ds.length + 1 - added
  let asReal (x : Float) : Found := .real (exponential x)
  match ← peek with
  | some '.' => return asReal (← fraction isNegative n dropped)
  | some 'e' | some 'E' => return asReal (← exponent isNegative n dropped)
  | _ =>
    if dropped != 0 then return asReal (← real isNegative n dropped)
    else if !isNegative then return .whole n
    else if n == 0 || Nat.pow 2 63 < n then return asReal (-n.toUInt64.toFloat)
    else return .whole (-n)
where
  /-- A double with an exponent, if it is very small or very large. -/
  exponential (x : Float) : String :=
    match Number.Dyadic.ofBits? (x.toBits.toNat % Nat.pow 2 63) with
    | none => Number.pointed x
    | some d =>
      let (c, k) := d.shortest
      let ds := Nat.toDigits 10 c
      let e : Int := ds.length - 1 + k
      if c == 0 || (-5 ≤ e && e ≤ 15) then Number.pointed x
      else
        let power := toString e.natAbs
        let digits := match ds with
          | a :: b :: cs => a :: '.' :: b :: cs
          | ds => ds
        (if x < 0 then "-" else "") ++ String.ofList digits ++ (if e < 0 then "e-" else "e+") ++
          (if power.length < 2 then "0" ++ power else power)

/-- Passes over a number whose sign has been read. -/
def skipNumber : Read Unit := do
  let d ← take .number
  if !d.isDigit then fail .number
  if d == '0' then
    if (← peek).any Char.isDigit then failNext .number
  else
    let _ ← digits
  if ← isNext '.' then
    pass
    if (← digits).isEmpty then failNext .number
  if (← peek).any fun c => c == 'e' || c == 'E' then
    pass
    if (← peek).any fun c => c == '+' || c == '-' then pass
    if !(← take .number).isDigit then fail .number
    let _ ← digits

/-! ### Values that are not expected -/

/-- Fails with a value of another kind than the one expected. -/
def unexpected {α : Type} (expected : String) : Read α := do
  let complain (found : Found) : Read α := fail (.unexpected (mismatch found expected))
  match ← peek with
  | some 'n' => pass; word ['u', 'l', 'l']; complain .nothing
  | some 't' => pass; word ['r', 'u', 'e']; complain (.switch true)
  | some 'f' => pass; word ['a', 'l', 's', 'e']; complain (.switch false)
  | some '"' => pass; complain (.text (← string))
  | some '[' => complain .list
  | some '{' => complain .table
  | some '-' => pass; complain (← number true)
  | some c => if c.isDigit then complain (← number false) else failNext .value
  | none => failNext .value

/-- What a value is skipped within. -/
inductive Within where
  | list
  | object
  deriving Repr, DecidableEq

/-- Where skipping stands. -/
inductive Skipping where
  /-- A value has to follow. -/
  | value
  /-- The innermost list or object may end; more may follow, behind a comma if `behindValue`. -/
  | more (behindValue : Bool)
  deriving Repr, DecidableEq

/-- The key of an entry of an object, with its colon. -/
def skipKey : Read Unit := do
  match ← peekSolid with
  | some '"' => pass
  | some _ => failNext .key
  | none => failNext .objectEnds
  skipString
  match ← peekSolid with
  | some ':' => pass
  | some _ => failNext .colon
  | none => failNext .objectEnds

/-- Passes over values; the number bounds the steps. -/
def skipFrom : Nat → Skipping → List Within → Read Unit
  | 0, _, _ => fail .value
  | n + 1, .value, outer => do
    match ← peekSolid with
    | some 'n' => pass; word ['u', 'l', 'l']; skipFrom n (.more true) outer
    | some 't' => pass; word ['r', 'u', 'e']; skipFrom n (.more true) outer
    | some 'f' => pass; word ['a', 'l', 's', 'e']; skipFrom n (.more true) outer
    | some '"' => pass; skipString; skipFrom n (.more true) outer
    | some '-' => pass; skipNumber; skipFrom n (.more true) outer
    | some '[' => pass; skipFrom n (.more false) (.list :: outer)
    | some '{' => pass; skipFrom n (.more false) (.object :: outer)
    | some c =>
      if c.isDigit then skipNumber; skipFrom n (.more true) outer
      else failNext .value
    | none => failNext .valueEnds
  | _ + 1, .more _, [] => return
  | n + 1, .more behindValue, within :: outer => do
    match ← peekSolid, within with
    | none, .list => failNext .listEnds
    | none, .object => failNext .objectEnds
    | some ']', .list => pass; skipFrom n (.more true) outer
    | some '}', .object => pass; skipFrom n (.more true) outer
    | some c, within =>
      if behindValue then
        if c == ',' then pass
        else failNext (if within = .list then .listGoesOn else .objectGoesOn)
      if within = .object then skipKey
      skipFrom n .value (within :: outer)

/-- **Passes over any value.** -/
def skip : Read Unit := do skipFrom (2 * (← get).length + 2) .value []

/-! ### Values that are expected -/

/-- Fails at the end of the text. -/
def present : Read Unit := do
  if (← peekSolid).isNone then failNext .valueEnds

/-- **A string.** -/
def text : Read String := do
  present
  if ← isNext '"' then pass; string
  else unexpected "a string"

/-- **A value that may be missing.** -/
def optional {α : Type} (read : Read α) : Read (Option α) := do
  if (← peekSolid) == some 'n' then
    pass
    word ['u', 'l', 'l']
    return none
  else return some (← read)

/-- The next key of an object whose opening brace has been read; none at its closing brace. -/
def nextKey? (isFirst : Bool) : Read (Option String) := do
  match ← peekSolid with
  | some '}' => return none
  | some ',' =>
    if isFirst then failNext .key
    pass
    match ← peekSolid with
    | some '"' => pass; return some (← string)
    | some '}' => failNext .trailingComma
    | some _ => failNext .key
    | none => failNext .valueEnds
  | some c =>
    if !isFirst then failNext .objectGoesOn
    else if c == '"' then pass; return some (← string)
    else failNext .key
  | none => failNext .objectEnds

/-- The colon between a key and its value. -/
def colon : Read Unit := do
  match ← peekSolid with
  | some ':' => pass
  | some _ => failNext .colon
  | none => failNext .objectEnds

/-- The closing brace of an object. -/
def closeObject : Read Unit := do
  match ← peekSolid with
  | some '}' => pass
  | some ',' => failNext .trailingComma
  | some _ => failNext .trailing
  | none => failNext .objectEnds

/-- Whether a list whose opening bracket has been read has one more element. -/
def hasElement (isFirst : Bool) : Read Bool := do
  match ← peekSolid with
  | none => failNext .listEnds
  | some ']' => return false
  | some c =>
    if isFirst then return true
    else if c == ',' then
      pass
      match ← peekSolid with
      | some ']' => failNext .trailingComma
      | some _ => return true
      | none => failNext .valueEnds
    else failNext .listGoesOn

/-- The closing bracket of a list. -/
def closeList : Read Unit := do
  match ← peekSolid with
  | some ']' => pass
  | some ',' =>
    pass
    if (← peekSolid) == some ']' then failNext .trailingComma else failNext .trailing
  | some _ => failNext .trailing
  | none => failNext .listEnds

/-- The entries of an object whose opening brace has been read: a fold over the keys, where each
step reads the value of a key. The number bounds the entries. -/
def entries {α : Type} (step : α → String → Read α) : Nat → Bool → α → Read α
  | 0, _, acc => return acc
  | n + 1, isFirst, acc => do
    match ← nextKey? isFirst with
    | none => return acc
    | some key => entries step n false (← step acc key)

/-- **The keys of an object of strings.** -/
def textKeys : Read (List String) := do
  present
  if ← isNext '{' then
    pass
    let keys ← entries (fun keys key => do colon; let _ ← text; return key :: keys)
      ((← get).length + 1) true []
    closeObject
    return keys
  else unexpected "a map"

/-- Nothing may follow but spaces. -/
def finish : Read Unit := do
  if (← peekSolid).isSome then failNext .trailing

/-- **Reads a whole text.** -/
def run {α : Type} (read : Read α) (source : String) : Except String α :=
  match (do let a ← read; finish; return a : Read α).run source.toList with
  | .ok a _ => .ok a
  | .error c _ => .error (c.message source)

end EnvSchema.Data.Json
