-- A script seen all at once. Its lines fall into segments, one for each name tag, and
-- every segment that has a terminator is a statement. A statement is written as its name
-- tag, its other tags in any order, and its text in one line that ends in a terminator.
import NamedSql.Assembly

namespace NamedSql

/-- A name tag and the lines up to the next name tag. -/
structure Segment where
  /-- The name as spelled. -/
  value : Text
  body : List Line
  deriving DecidableEq, Repr

namespace Segment

/-! ## Cutting lines into segments -/

/-- The lines before the first name tag, and the segments after them. -/
def cut : List Line → List Line × List Segment
  | [] => ([], [])
  | .name value :: rest => ([], ⟨value, (cut rest).1⟩ :: (cut rest).2)
  | line :: rest => (line :: (cut rest).1, (cut rest).2)

/-- The segments of a script. -/
def ofLines (lines : List Line) : List Segment := (cut lines).2

/-! ## The statement of a segment -/

def isTerminator : Line → Bool
  | .terminated _ => true
  | _ => false

/-- The lines that count: those up to the first terminator, and it. -/
def counted (s : Segment) : List Line :=
  s.body.takeWhile (fun l => !isTerminator l) ++ (s.body.find? isTerminator).toList

/-- The segment has a terminator. -/
def isComplete (s : Segment) : Bool := s.body.any isTerminator

/-- The name in lower case. -/
def key (s : Segment) : Text := Text.lower s.value

def codeOf? : Line → Option Text
  | .fragment code | .terminated code => if code.isEmpty then none else some code
  | _ => none

/-- The code that counts, in one line. -/
def text (s : Segment) : Text := List.intercalate [' '] (s.counted.filterMap codeOf?)

def addTag (tags : Tags) : Line → Tags
  | .tag key value => tags.insert key value
  | _ => tags

/-- The name, and the tags that count. The last value of a key stays. -/
def tags (s : Segment) : Tags := s.counted.foldl addTag (Tags.single Line.nameKey s.value)

/-- The statement of a segment, after `ordinal` others. Where a segment changes tables, its
colons are left alone. -/
def statement (s : Segment) (ordinal : Nat) : Statement where
  text := if Kind.ofText s.text = .ddl then s.text else Colons.escape s.text
  kind := Kind.ofText s.text
  tags := s.tags
  ordinal := ordinal

/-! ## The script of the segments -/

/-- The segment at place `i` takes the name of an earlier complete one. -/
def repeats (segments : List Segment) (i : Nat) (s : Segment) : Bool :=
  (segments.take i).any fun earlier => earlier.isComplete && earlier.key == s.key

/-- The first name that is taken again. -/
def firstRepeat? (segments : List Segment) : Option Text :=
  (segments.zipIdx.find? fun (s, i) => repeats segments i s).map (·.1.key)

/-- One statement for each complete segment. -/
def catalog (segments : List Segment) : Catalog :=
  ⟨(segments.filter isComplete).zipIdx.map fun (s, i) => (s.key, s.statement i)⟩

/-- The statements of a script, or the first name that is taken again. -/
def parse (lines : List Line) : Except ParseError Catalog :=
  match firstRepeat? (ofLines lines) with
  | some name => .error (.duplicateName name)
  | none => .ok (catalog (ofLines lines))

end Segment

/-! ## Writing statements as a script -/

namespace Statement

/-- The tags apart from the name. -/
def otherTags (s : Statement) : List (Text × Text) :=
  s.tags.entries.filter fun e => e.1 != Line.nameKey

/-- The lines of a statement whose other tags are written in this order. -/
def scriptLines (s : Statement) (others : List (Text × Text)) : List Text :=
  Tag.line Line.nameKey s.name :: others.map (fun e => Tag.line e.1 e.2) ++ [s.text ++ [';']]

end Statement

/-- The lines write the statements one after the other. -/
inductive Writes : List Statement → List Text → Prop where
  | nil : Writes [] []
  | cons {s : Statement} {ss : List Statement} {others : List (Text × Text)} {lines : List Text} :
      others.Perm s.otherTags → Writes ss lines →
      Writes (s :: ss) (s.scriptLines others ++ lines)

/-- The script that has these lines. -/
def scriptOf (lines : List Text) : Text := lines.flatMap (· ++ ['\n'])

end NamedSql
