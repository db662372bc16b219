import EnvSchema.Files.Path

/-!
# Trees of files

A tree of files is a value: the files and folders by the names on the way to them. Nothing is read
from a disk and nothing is written to one; writing gives another tree.

* `Content` — what a file holds: a text, or bytes that are none;
* `Tree.find` — the file or folder that a path leads to, or why it leads nowhere;
* `Tree.readText`, `Tree.writeText`, `Tree.names`, `Tree.makeFolders` — what programs do with files
  and folders;
* `Tree.get?_put` — what is put into a tree is found there.
-/

namespace EnvSchema.Files

/-- **Why a path cannot be used.** -/
inductive Fault where
  | notFound
  | notFolder
  | isFolder
  /-- There is something already where something new was to be. -/
  | present
  | nameTooLong
  /-- A character in the path that no name may have. -/
  | zeroCharacter
  /-- The file holds no text. -/
  | notText
  deriving Repr, DecidableEq, Inhabited

/-- How a fault is reported. -/
def Fault.message : Fault → String
  | notFound => "No such file or directory (os error 2)"
  | notFolder => "Not a directory (os error 20)"
  | isFolder => "Is a directory (os error 21)"
  | present => "File exists (os error 17)"
  | nameTooLong => "File name too long (os error 36)"
  | zeroCharacter => "file name contained an unexpected NUL byte"
  | notText => "stream did not contain valid UTF-8"

/-- **What a file holds.** -/
inductive Content where
  | text (s : String)
  /-- Bytes that are the encoding of no text. -/
  | bytes (b : List UInt8)
  deriving Repr, DecidableEq, Inhabited

/-- The bytes as a text, if they are the encoding of one. -/
def Content.ofBytes (b : List UInt8) : Content :=
  match String.fromUTF8? ⟨b.toArray⟩ with
  | some s => .text s
  | none => .bytes b

/-- What a path leads to. -/
inductive Entry where
  | file (content : Content)
  | folder
  deriving Repr, DecidableEq, Inhabited

/-- **A tree of files**, by the names on the way from the root. The root is a folder. -/
structure Tree where
  entries : List (List String × Entry)
  /-- Every way leads to one entry. -/
  distinct : (entries.map (·.1)).Nodup

namespace Tree

/-- The tree of nothing but the root. -/
def empty : Tree where
  entries := []
  distinct := .nil

instance : Inhabited Tree := ⟨empty⟩

/-- The file or folder at the end of a way from the root. -/
def get? (t : Tree) (way : List String) : Option Entry :=
  if way.isEmpty then some .folder else (t.entries.find? fun e => e.1 == way).map (·.2)

/-- Entries with another one at the end of a way: it takes the place of the one there, or the last
one. -/
def putIn (way : List String) (entry : Entry) : List (List String × Entry) → List (List String × Entry)
  | [] => [(way, entry)]
  | e :: es => if e.1 = way then (way, entry) :: es else e :: putIn way entry es

/-- The ways of the entries stay in their order; a new one is the last. -/
theorem map_fst_putIn (way : List String) (entry : Entry) (es : List (List String × Entry)) :
    (putIn way entry es).map (·.1) =
      if way ∈ es.map (·.1) then es.map (·.1) else es.map (·.1) ++ [way] := by
  induction es with
  | nil => rfl
  | cons e es ih =>
    rw [putIn]
    by_cases he : e.1 = way
    · simp [he]
    · rw [if_neg he, List.map_cons, ih]
      simp only [List.map_cons, List.mem_cons, Ne.symm he, false_or]
      split <;> rfl

/-- A tree with another file or folder at the end of a way. -/
def put (t : Tree) (way : List String) (entry : Entry) : Tree where
  entries := putIn way entry t.entries
  distinct := by
    rw [map_fst_putIn]
    split
    · exact t.distinct
    · next hnew =>
      refine List.nodup_append.2 ⟨t.distinct, by simp, fun a ha b hb => ?_⟩
      rw [List.mem_singleton.1 hb]
      rintro rfl
      exact hnew ha

/-- What is put into entries is found there, and the others are found as before. -/
private theorem find?_putIn (way other : List String) (entry : Entry)
    (es : List (List String × Entry)) :
    ((putIn way entry es).find? fun e => e.1 == other).map (·.2) =
      if other = way then some entry else (es.find? fun e => e.1 == other).map (·.2) := by
  induction es with
  | nil =>
    by_cases h : other = way
    · simp [putIn, h]
    · simp [putIn, h, Ne.symm h]
  | cons e es ih =>
    rw [putIn]
    by_cases he : e.1 = way
    · by_cases h : other = way
      · simp [he, h]
      · simp [he, h, Ne.symm h]
    · rw [if_neg he, List.find?_cons, List.find?_cons]
      by_cases h : e.1 = other
      · have hne : other ≠ way := h ▸ he
        simp [h, hne]
      · rw [beq_eq_false_iff_ne.2 h]
        exact ih

/-- What is put into a tree is found there. -/
theorem get?_put {t : Tree} {way : List String} {entry : Entry} (h : way ≠ []) :
    (t.put way entry).get? way = some entry := by
  rw [get?, List.isEmpty_eq_false_iff.2 h, put, find?_putIn]
  simp

/-- What is put into a tree changes nothing elsewhere. -/
theorem get?_put_of_ne {t : Tree} {way other : List String} {entry : Entry} (h : other ≠ way) :
    (t.put way entry).get? other = t.get? other := by
  rw [get?, get?, put, find?_putIn, if_neg h]

/-- A tree in which all folders on a way exist. -/
def withFolders (t : Tree) (way : List String) : Tree :=
  (List.range way.length).foldl
    (fun t n =>
      let w := way.take (n + 1)
      if (t.get? w).isSome then t else t.put w .folder)
    t

/-- A tree with a file at the end of a way, and all folders on that way. -/
def withFile (t : Tree) (way : List String) (content : Content) : Tree :=
  (t.withFolders way.dropLast).put way (.file content)

/-- The longest name in bytes. -/
def maxName : Nat := 255

/-- The longest path in bytes. -/
def maxPath : Nat := 4095

/-- Follows the pieces of a path from a folder or file on, and answers the way to where it leads. -/
def follow (t : Tree) : List String → List String → Except Fault (List String)
  | at_, [] => .ok at_
  | at_, p :: ps =>
    if t.get? at_ != some .folder then .error .notFolder
    else if !isStep p then follow t at_ ps
    else if p == ".." then follow t at_.dropLast ps
    else if maxName < p.utf8ByteSize then .error .nameTooLong
    else if (t.get? (at_ ++ [p])).isNone then .error .notFound
    else follow t (at_ ++ [p]) ps

/-- Why a path cannot be used whatever the tree holds. -/
def pathFault? (path : String) : Option Fault :=
  if path.isEmpty then some .notFound
  else if path.toList.contains '\x00' then some .zeroCharacter
  else if maxPath < path.utf8ByteSize then some .nameTooLong
  else none

/-- **The way from the root that a path leads along**, without the names that it goes back from. -/
def way (t : Tree) (path : String) : Except Fault (List String) :=
  match pathFault? path with
  | some f => .error f
  | none => t.follow [] (pieces path)

/-- **The file or folder that a path leads to.** -/
def find (t : Tree) (path : String) : Except Fault Entry := do
  return (t.get? (← t.way path)).getD .folder

/-- Whether a path leads to anything. -/
def exists? (t : Tree) (path : String) : Bool := (t.find path).isOk

/-- Whether a path leads to a file. -/
def isFile (t : Tree) (path : String) : Bool :=
  match t.find path with
  | .ok (.file _) => true
  | _ => false

/-- Whether a path leads to a folder. -/
def isFolder (t : Tree) (path : String) : Bool :=
  match t.find path with
  | .ok .folder => true
  | _ => false

/-- **The text in a file.** -/
def readText (t : Tree) (path : String) : Except Fault String := do
  match ← t.find path with
  | .folder => .error .isFolder
  | .file (.bytes _) => .error .notText
  | .file (.text s) => .ok s

/-- The names in a folder, in no particular order. -/
def namesIn (t : Tree) (way : List String) : List String :=
  (t.entries.filter fun e => e.1.dropLast == way && !e.1.isEmpty).map fun e => e.1.getLastD ""

/-- **The names in the folder at a path**, in no particular order. -/
def names (t : Tree) (path : String) : Except Fault (List String) := do
  let w ← t.way path
  match t.get? w with
  | some .folder => return t.namesIn w
  | _ => .error .notFolder

/-- The way to what a path would lead to if it was there. The folder that it lies in has to be. -/
def newWay (t : Tree) (path : String) : Except Fault (List String) :=
  match (pieces path).reverse with
  | name :: folder =>
    if isStep name then do
      let w ← t.follow [] folder.reverse
      match t.get? w with
      | some .folder => return w ++ [name]
      | _ => .error .notFolder
    else .error .isFolder
  | [] => .error .notFound

/-- **A tree in which a file holds a text.** The folder of the file has to exist. -/
def writeText (t : Tree) (path text : String) : Except Fault Tree :=
  match t.way path with
  | .ok w => if t.get? w == some .folder then .error .isFolder else .ok (t.put w (.file (.text text)))
  | .error .notFound => return t.put (← t.newWay path) (.file (.text text))
  | .error f => .error f

/-- A tree in which there is a folder at a path; the folder that it lies in has to exist. -/
def makeFolder (t : Tree) (path : String) : Except Fault Tree :=
  match t.find path with
  | .ok .folder => .ok t
  | .ok (.file _) => .error .present
  | .error .notFound => return t.put (← t.newWay path) .folder
  | .error f => .error f

/-- **A tree in which there is a folder at a path**, and all those that it lies in. -/
def makeFolders (t : Tree) (path : String) : Except Fault Tree := do
  let t ← (ancestors path).tail.reverse.foldlM
    (fun t p => match t.makeFolder p with
      | .error .present => .error .notFolder
      | r => r)
    t
  t.makeFolder path

end Tree

end EnvSchema.Files
