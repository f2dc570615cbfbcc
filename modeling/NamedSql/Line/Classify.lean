-- The classification of a line. Each line is classified alone, without a look at its
-- neighbours, and white space around it never counts. A control command is known by its
-- first letters, and only then is the line read as a tag, as a comment, or as code. The
-- marks of comments are found by search, and a reading from left to right meets the same.
import NamedSql.Text.Basic

namespace NamedSql

/-! ## What a line is -/

/-- The class of a line, with the part of the line that counts. -/
inductive Line where
  /-- Nothing but white space. -/
  | blank
  /-- A command that ends a transaction. It belongs to no statement. -/
  | control
  /-- A comment that holds no tag. -/
  | comment
  /-- A tag that starts a statement and names it. -/
  | name (value : Text)
  /-- Any other tag. The key is in lower case. -/
  | tag (key value : Text)
  /-- Code that does not end the statement. -/
  | fragment (code : Text)
  /-- Code that ends the statement, up to the terminator. -/
  | terminated (code : Text)
  deriving DecidableEq, Repr

/-- A line that never changes what is being assembled. -/
def Line.isIgnorable : Line → Bool
  | .blank | .control | .comment => true
  | .name _ | .tag _ _ | .fragment _ | .terminated _ => false

/-! ## Comments

At most one block comment counts: it runs from the first opening to the first closing
after it, or to the end of the line. Two dashes outside the block hide the rest of the
line. -/

/-- Where the comments of a line stand. -/
structure Comments where
  /-- The first place of the block comment, and the first place behind it. -/
  block : Option (Nat × Nat)
  /-- The place of the dashes that hide the rest of the line. -/
  dashes : Option Nat
  deriving DecidableEq, Repr

namespace Comments

def blockOf (line : Text) : Option (Nat × Nat) :=
  (Text.place? ['/', '*'] line).map fun start =>
    match Text.place? ['*', '/'] (line.drop (start + 2)) with
    | some close => (start, start + 2 + close + 2)
    | none => (start, line.length)

def inBlock (block : Option (Nat × Nat)) (i : Nat) : Bool :=
  block.any fun b => b.1 ≤ i && i < b.2

/-- The comments of a line, found by searching for their marks. -/
def scan (line : Text) : Comments where
  block := blockOf line
  dashes := (Text.places ['-', '-'] line).find? fun i => !inBlock (blockOf line) i

/-- A comment covers place `i`. -/
def hides (c : Comments) (i : Nat) : Bool := inBlock c.block i || c.dashes.any (· ≤ i)

/-- A line without the comment that its dashes start. -/
def code (c : Comments) (line : Text) : Text :=
  match c.dashes with
  | some start => Text.trimEnd (line.take start)
  | none => line

/-- The place of the first semicolon that no comment covers. -/
def terminator? (c : Comments) (line : Text) : Option Nat :=
  (Text.places [';'] line).find? fun i => !c.hides i

end Comments

/-! ## Tags

Blanks may stand around every part of a tag line such as `-- tag=key: value`, the case of
`tag` and of the key does not matter, and the value runs to the end of the line. -/

/-- A tag as a line gives it. -/
structure Tag where
  /-- The key in lower case. -/
  key : Text
  value : Text
  deriving DecidableEq, Repr

namespace Tag

/-- A letter or digit of ASCII, an underscore or a hyphen. -/
def isKeyChar (c : Char) : Bool := c.isAlphanum || c == '_' || c == '-'

def lowerKey (key : Text) : Text := key.map Char.toLower

/-! ## Reading a tag -/

/-- The next part of a tag line: blanks, and then `word`. -/
def expect? (word t : Text) : Option Text := Text.dropWord? word (Text.skipBlanks t)

/-- The tag that a line gives, if it is a tag line. -/
def ofLine? (line : Text) : Option Tag := do
  let afterDashes ← expect? ['-', '-'] line
  let afterWord ← expect? ['t', 'a', 'g'] afterDashes
  let afterEquals ← expect? ['='] afterWord
  let fromKey := Text.skipBlanks afterEquals
  let key := fromKey.takeWhile isKeyChar
  if key.isEmpty then none
  let afterColon ← expect? [':'] (fromKey.dropWhile isKeyChar)
  some ⟨lowerKey key, Text.skipBlanks afterColon⟩

/-! ## Spelling a tag -/

/-- A tag line taken apart. -/
structure Spelling where
  gap₁ : Text
  gap₂ : Text
  /-- The word `tag`, as spelled. -/
  word : Text
  gap₃ : Text
  gap₄ : Text
  /-- The key, as spelled. -/
  key : Text
  gap₅ : Text
  gap₆ : Text
  value : Text

namespace Spelling

/-- The line that the parts make up. -/
def line (s : Spelling) : Text :=
  s.gap₁ ++ ['-', '-'] ++ s.gap₂ ++ s.word ++ s.gap₃ ++ ['='] ++ s.gap₄ ++ s.key ++ s.gap₅ ++
    [':'] ++ s.gap₆ ++ s.value

/-- The gaps are blank, the word is `tag`, the key is a key, and the value
takes no blank that belongs to the gap before it. -/
structure Valid (s : Spelling) : Prop where
  gaps : ∀ c ∈ s.gap₁ ++ s.gap₂ ++ s.gap₃ ++ s.gap₄ ++ s.gap₅ ++ s.gap₆, Text.isBlank c = true
  word : lowerKey s.word = ['t', 'a', 'g']
  key_ne : s.key ≠ []
  key : ∀ c ∈ s.key, isKeyChar c = true
  value : ∀ c ∈ s.value.head?, Text.isBlank c = false

/-- The tag that the parts give. -/
def tag (s : Spelling) : Tag := ⟨lowerKey s.key, s.value⟩

end Spelling

/-- The usual spelling of a tag. -/
def line (key value : Text) : Text := "-- tag=".toList ++ key ++ [':', ' '] ++ value

end Tag

/-! ## The class of a line -/

namespace Line

/-- The words that start a control line. A longer word counts as well. -/
def controlWords : List Text := ["commit".toList, "rollback".toList]

def startsControl (line : Text) : Bool := controlWords.any (Text.startsWithWord · line)

/-- The key of the tag that starts a statement. -/
def nameKey : Text := "name".toList

def ofTag (t : Tag) : Line := if t.key = nameKey then .name t.value else .tag t.key t.value

/-- A line of code, without its comment and what follows its terminator. -/
def ofCode (line : Text) : Line :=
  let comments := Comments.scan line
  let code := comments.code line
  match comments.terminator? code with
  | some i => .terminated (Text.trimEnd (code.take i))
  | none => .fragment code

/-- The class of a line that has been trimmed. -/
def ofTrimmed (line : Text) : Line :=
  if line.isEmpty then .blank
  else if startsControl line then .control
  else
    match Tag.ofLine? line with
    | some t => ofTag t
    | none => if ['-', '-'].isPrefixOf line then .comment else ofCode line

/-- The class of a line. -/
def classify (raw : Text) : Line := ofTrimmed (Text.trim raw)

/-- The line holds a semicolon that no comment covers. -/
def isTerminated (line : Text) : Bool := ((Comments.scan line).terminator? line).isSome

end Line

/-! ## Reading a line from left to right -/

/-- Where a reading of a line stands. -/
inductive ScanMode where
  /-- In code, and no block comment has been met. -/
  | code
  /-- In the block comment. -/
  | block
  /-- In code behind the block comment. A second one does not count. -/
  | codeBehind
  deriving DecidableEq, Repr

/-- What a reading of a line meets. -/
inductive ScanMark where
  | terminator (place : Nat)
  /-- The dashes that hide the rest of the line. -/
  | dashes (place : Nat)
  deriving DecidableEq, Repr

namespace ScanMark

def terminator? : ScanMark → Option Nat
  | .terminator i => some i
  | .dashes _ => none

def dashes? : ScanMark → Option Nat
  | .terminator _ => none
  | .dashes i => some i

end ScanMark

namespace Line

/-- What a reading meets in the rest of a line, from place `i` on. -/
def marksFrom : ScanMode → Nat → Text → List ScanMark
  | .block, i, '*' :: '/' :: rest => marksFrom .codeBehind (i + 2) rest
  | .block, i, _ :: rest => marksFrom .block (i + 1) rest
  | .code, i, '/' :: '*' :: rest => marksFrom .block (i + 2) rest
  | _, i, '-' :: '-' :: _ => [.dashes i]
  | mode, i, ';' :: rest => .terminator i :: marksFrom mode (i + 1) rest
  | mode, i, _ :: rest => marksFrom mode (i + 1) rest
  | _, _, [] => []

/-- What a reading of a line meets. -/
def marks (line : Text) : List ScanMark := marksFrom .code 0 line

/-- The place of the dashes that hide the rest of the line. -/
def scannedDashes? (line : Text) : Option Nat := (marks line).findSome? ScanMark.dashes?

/-- The place of the first terminator. -/
def scannedTerminator? (line : Text) : Option Nat := (marks line).findSome? ScanMark.terminator?

end Line

end NamedSql
