import EnvSchema.Script.Fault

/-!
# Tokens of a script

The smallest pieces a script is read in, and the few questions about a token on its own that the
readers ask.

* `Token` — words, marks, literals, the pieces of templates and of elements, and the places where
  no token could be read;
* `Token.beforeExpr`, `Token.startsExpr` — may an expression follow, may one start here;
* `TokenClass` — what of a token the reading of the next one depends on.
-/

namespace EnvSchema.Script

/-- The words with a meaning of their own, which are not names. -/
def keywords : List String :=
  ["await", "break", "case", "catch", "continue", "debugger", "default", "do", "else", "finally",
   "for", "function", "if", "return", "switch", "throw", "try", "var", "let", "const", "while",
   "with", "new", "this", "super", "class", "extends", "export", "import", "yield", "in",
   "instanceof", "typeof", "void", "delete"]

/-- The words that are literals. -/
def literalWords : List String := ["null", "true", "false"]

/-- The marks that stand between two operands, with their strength: a greater one binds closer. -/
def binaryMarks : List (String × Nat) :=
  [("==", 6), ("!=", 6), ("===", 6), ("!==", 6), ("<", 7), ("<=", 7), (">", 7), (">=", 7),
   ("<<", 8), (">>", 8), (">>>", 8), ("+", 9), ("-", 9), ("*", 10), ("/", 10), ("%", 10),
   ("|", 3), ("^", 4), ("&", 5), ("||", 1), ("&&", 2), ("**", 11), ("??", 1)]

/-- The marks that give a target a value. -/
def assignMarks : List String :=
  ["=", "+=", "-=", "*=", "/=", "%=", "<<=", ">>=", ">>>=", "|=", "^=", "&=", "**=", "&&=", "||=",
   "??="]

/-- **The smallest pieces of a script.** -/
inductive Token where
  /-- A name, a keyword or a literal word. -/
  | word (text : String)
  /-- A mark. -/
  | mark (text : String)
  /-- A quoted text: what it stands for, and how it is written. -/
  | string (value raw : String)
  /-- A number as it is written. -/
  | number (raw : String)
  /-- A whole number with its mark, as it is written. -/
  | bigint (raw : String)
  /-- A regular expression. -/
  | regexp (body flags : String)
  /-- A piece of a template, as it is written and as what it stands for. -/
  | template (raw : String) (cooked : Except Diagnostic String)
  /-- A name within the brackets of an element. -/
  | elementName (name : String)
  /-- Text between elements: what it stands for, and how it is written. -/
  | elementText (value raw : String)
  /-- The bracket that opens an element's tag. -/
  | tagStart
  /-- The bracket that ends an element's tag. -/
  | tagEnd
  /-- The first line, where it names an interpreter. -/
  | hashbang (text : String)
  /-- No token could be read here. -/
  | faulty (diagnostic : Diagnostic)
  deriving Inhabited

namespace Token

/-- Whether the token is the given word. -/
def isWord : Token → String → Bool
  | word t, w => t == w
  | _, _ => false

/-- Whether the token is the given mark. -/
def isMark : Token → String → Bool
  | mark t, m => t == m
  | _, _ => false

/-- Whether the token is the given mark or word. -/
def isText : Token → String → Bool
  | word t, s => t == s
  | mark t, s => t == s
  | _, _ => false

/-- Whether the token is a word of any kind. -/
def isAnyWord : Token → Bool
  | word _ => true
  | _ => false

/-- Whether the token is a keyword. -/
def isKeyword : Token → Bool
  | word t => keywords.contains t
  | _ => false

/-- Whether the token is a name: a word that is neither a keyword nor a literal. -/
def isName : Token → Bool
  | word t => !keywords.contains t && !literalWords.contains t
  | _ => false

/-- Whether the token is a name within an element's tag. -/
def isElementName : Token → Bool
  | elementName _ => true
  | _ => false

/-- Whether the token opens an element's tag. -/
def isTagStart : Token → Bool
  | tagStart => true
  | _ => false

/-- Whether no token could be read. -/
def isFaulty : Token → Bool
  | faulty _ => true
  | _ => false

/-- The strength of the token as a mark between two operands, if it is one. -/
def binaryStrength? : Token → Option Nat
  | mark t => binaryMarks.lookup t
  | _ => none

/-- Whether the token is a mark that stands between two operands. -/
def isBinary (t : Token) : Bool := t.binaryStrength?.isSome

/-- Whether the token gives a target a value. -/
def isAssign : Token → Bool
  | mark t => assignMarks.contains t
  | _ => false

/-- Whether an expression may follow the token. -/
def beforeExpr : Token → Bool
  | word t =>
    ["await", "case", "default", "do", "else", "return", "throw", "new", "extends", "yield", "in",
     "instanceof", "typeof", "void", "delete"].contains t
  | mark t =>
    (binaryMarks.lookup t).isSome || assignMarks.contains t ||
      ["=>", "...", "!", "(", "\x7b", "[", ";", ",", ":", "$\x7b", "?", "++", "--", "~"].contains t
  | elementText .. => true
  | _ => false

/-- Whether an expression may start with the token. -/
def startsExpr (t : Token) : Bool :=
  match t with
  | word w =>
    t.isName || literalWords.contains w ||
      ["await", "function", "new", "this", "super", "class", "import", "yield", "typeof", "void",
       "delete"].contains w
  | mark m => ["+", "-", "!", "(", "\x7b", "[", "`", "$\x7b", "++", "--", "~"].contains m
  | string .. | regexp .. | number _ | bigint _ | tagStart => true
  | _ => false

/-- Whether the word `let` before the token starts a declaration. -/
def followsLet (t : Token) : Bool :=
  t.isName || t.isText "let" || t.isText "yield" || t.isText "await" || t.isMark "\x7b" ||
    t.isMark "["

end Token

/-- **What of a token the reading of the next one depends on.** -/
inductive TokenClass where
  | template
  | dot
  | colon
  | arrow
  | openBrace
  | closeParen
  | semicolon
  | elementName
  | elementText
  | tagStart
  | tagEnd
  | binary (mark : String)
  | keyword (word : String)
  /-- Any other token: may an expression follow it, and may a comment behind it belong to it? -/
  | other (beforeExpr trailing : Bool)
  deriving Repr, DecidableEq, Inhabited

namespace TokenClass

/-- The class of a token. -/
def ofToken (t : Token) : TokenClass :=
  match t with
  | .template .. => template
  | .mark "." => dot
  | .mark ":" => colon
  | .mark "=>" => arrow
  | .mark "\x7b" => openBrace
  | .mark ")" => closeParen
  | .mark ";" => semicolon
  | .tagEnd => tagEnd
  | .tagStart => tagStart
  | .elementText .. => elementText
  | .elementName _ => elementName
  | .mark m =>
    if (binaryMarks.lookup m).isSome then binary m
    else other t.beforeExpr (m == "$\x7b" || m == "\x7d")
  | .word w =>
    if keywords.contains w then keyword w else other t.beforeExpr t.isName
  | .string .. | .regexp .. | .number _ | .bigint _ => other false true
  | _ => other false false

/-- Whether an expression may follow a token of the class. -/
def beforeExpr : TokenClass → Bool
  | template | dot | closeParen | elementName | tagStart | tagEnd => false
  | elementText | colon | arrow | openBrace | semicolon | binary _ => true
  | keyword w => (Token.word w).beforeExpr
  | other b _ => b

/-- Whether a comment of one line behind a token of the class may belong to it. -/
def canTrailLine : TokenClass → Bool
  | binary _ => false
  | _ => true

/-- Whether a bracketed comment behind a token of the class may belong to it. -/
def canTrail : TokenClass → Bool
  | semicolon | openBrace => true
  | other _ t => t
  | _ => false

end TokenClass

end EnvSchema.Script
