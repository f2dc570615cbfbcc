-- The classification of a line by offsets into its bytes. A cut that lies
-- beyond the end or inside a character gives nothing, so a result in every case
-- says that all cuts are in order.
import NamedSql.Statement

namespace NamedSql.Offsets

/-! ## Cuts -/

/-- The two parts of a text of which the first has `n` bytes. -/
def cut? (n : Nat) : Text → Option (Text × Text)
  | [] => if n = 0 then some ([], []) else none
  | c :: cs =>
    if n = 0 then some ([], c :: cs)
    else if n < c.utf8Size then none
    else (cut? (n - c.utf8Size) cs).map fun p => (c :: p.1, p.2)

/-- The part of a text from offset `i` to offset `j`. -/
def slice? (i j : Nat) (t : Text) : Option Text := do
  let (before, _) ← cut? j t
  let (_, part) ← cut? i before
  return part

/-- The first `n` bytes, which need not end a character. -/
def window? (n : Nat) (bytes : List UInt8) : Option (List UInt8) :=
  if n ≤ bytes.length then some (bytes.take n) else none

/-! ## Bytes -/

def lowerByte (b : UInt8) : UInt8 := if 65 ≤ b ∧ b ≤ 90 then b + 32 else b

/-- The bytes are those of `word`, up to the case of ASCII letters. -/
def spells (word : Text) (bytes : List UInt8) : Bool :=
  bytes.map lowerByte == (Text.encode word).map lowerByte

def isBlankByte (b : UInt8) : Bool := b == 32 || b == 9 || b == 10 || b == 12 || b == 13

def isKeyByte (b : UInt8) : Bool :=
  (48 ≤ b && b ≤ 57) || (65 ≤ b && b ≤ 90) || (97 ≤ b && b ≤ 122) || b == 95 || b == 45

/-! ## Comments and terminator -/

def blockOf? (line : Text) : Option (Option (Nat × Nat)) :=
  match Text.place? (Text.encode ['/', '*']) (Text.encode line) with
  | none => some none
  | some start => do
    let (_, body) ← cut? (start + 2) line
    match Text.place? (Text.encode ['*', '/']) (Text.encode body) with
    | some close => return some (start, start + 2 + close + 2)
    | none => return some (start, Text.byteLength line)

def comments? (line : Text) : Option Comments := do
  let block ← blockOf? line
  let dashes := (Text.places (Text.encode ['-', '-']) (Text.encode line)).find? fun i =>
    !Comments.inBlock block i
  return ⟨block, dashes⟩

def code? (c : Comments) (line : Text) : Option Text :=
  match c.dashes with
  | some start => (cut? start line).map fun p => Text.trimEnd p.1
  | none => some line

def terminator? (c : Comments) (line : Text) : Option Nat :=
  (Text.places (Text.encode [';']) (Text.encode line)).find? fun i => !c.hides i

def isTerminated? (line : Text) : Option Bool := do
  let c ← comments? line
  return (terminator? c line).isSome

def ofCode? (line : Text) : Option Line := do
  let c ← comments? line
  let code ← code? c line
  match terminator? c code with
  | some i => (cut? i code).map fun p => .terminated (Text.trimEnd p.1)
  | none => return .fragment code

/-! ## Tags -/

/-- The offset behind the blanks that start at offset `i`. -/
def behindBlanks (bytes : List UInt8) (i : Nat) : Nat :=
  i + ((bytes.drop i).takeWhile isBlankByte).length

/-- The offset behind `word`, if it stands behind the blanks at offset `i`. -/
def expect? (word : Text) (bytes : List UInt8) (i : Nat) : Option Nat := do
  let start := behindBlanks bytes i
  let part ← window? word.length (bytes.drop start)
  if spells word part then some (start + word.length) else none

/-- Where the key of a tag line starts and ends. -/
def keyOffsets? (bytes : List UInt8) : Option (Nat × Nat) := do
  let afterDashes ← expect? ['-', '-'] bytes 0
  let afterWord ← expect? ['t', 'a', 'g'] bytes afterDashes
  let afterEquals ← expect? ['='] bytes afterWord
  let start := behindBlanks bytes afterEquals
  let stop := start + ((bytes.drop start).takeWhile isKeyByte).length
  if stop = start then none
  return (start, stop)

/-- Where the value of a tag line starts whose key ends at offset `stop`. -/
def valueOffset? (bytes : List UInt8) (stop : Nat) : Option Nat := do
  let afterColon ← expect? [':'] bytes stop
  return behindBlanks bytes afterColon

/-- The tag that a line gives, with nothing for a cut that is not in order. The key is cut out
before a colon is looked for. -/
def tag? (line : Text) : Option (Option Tag) :=
  match keyOffsets? (Text.encode line) with
  | none => some none
  | some (start, stop) => do
    let key ← slice? start stop line
    match valueOffset? (Text.encode line) stop with
    | none => return none
    | some value =>
      let (_, rest) ← cut? value line
      return some ⟨Tag.lowerKey key, rest⟩

/-! ## Lines and kinds -/

/-- The line starts with one of the words. A line that is too short for a
word does not start with it. -/
def startsWithOne (words : List Text) (line : Text) : Bool :=
  words.any fun word => (window? word.length (Text.encode line)).any (spells word)

def classify? (raw : Text) : Option Line :=
  let line := Text.trim raw
  if line.isEmpty then some .blank
  else if startsWithOne Line.controlWords line then some .control
  else do
    match ← tag? line with
    | some t => return Line.ofTag t
    | none => if ['-', '-'].isPrefixOf line then return .comment else ofCode? line

/-- The kind that windows on the first six and the first ten bytes tell. -/
def kind? (t : Text) : Option Kind :=
  if (Text.encode t).length < Kind.fewestBytes then some .unknown
  else do
    let six ← window? 6 (Text.encode t)
    if Kind.dmlWords.any fun word => (window? word.length six).any (spells word) then
      return .dml
    if spells "select".toList six then return .dql
    if spells "create".toList six then return .ddl
    let ten ← window? 10 (Text.encode t)
    if spells "drop table".toList ten || spells "drop index".toList ten then return .ddl
    return .unknown

end NamedSql.Offsets
