-- Sample scripts for trying out the reader. They mix statements that are well
-- formed with stray tags, control lines, comments, names that are used twice
-- and statements that never end. No sample line but a raw one breaks in two.
import NamedSql.Line.Classify

namespace NamedSql.Sample

/-! ## The pools -/

/-- The names of sample statements. There are few of them, so that many a
name is used twice. -/
def names : List Text :=
  ["Select1".toList, "select1".toList, "Update1".toList, "CreateTable".toList, "Odd".toList,
   "Drop-2".toList]

/-- Words that start a statement, for every kind. -/
def heads : List Text :=
  ["select * from".toList, "insert into".toList, "update".toList, "delete from".toList,
   "merge into".toList, "create table".toList, "drop table".toList, "drop index".toList,
   "grant".toList]

/-- The item of number `i` of a pool that is used again from its start. -/
def pick (pool : List Text) (i : Nat) : Text := (pool[i % pool.length]?).getD []

/-! ## Sample lines -/

inductive Line where
  /-- A name tag with a name of the pool. -/
  | name (i : Nat)
  /-- A tag with one of four keys. -/
  | tag (i : Nat) (value : Text)
  /-- The head of a statement. -/
  | head (i : Nat) (rest : Text)
  /-- Free text, with a terminator or without. -/
  | body (text : Text) (isTerminated : Bool)
  /-- A control line, of one sort or the other. -/
  | control (isCommit : Bool)
  | comment (text : Text)
  | blank
  /-- Anything at all. -/
  | raw (text : Text)
  deriving DecidableEq, Repr

/-- A text in one line: a space takes the place of each line break. -/
def oneLine (t : Text) : Text := t.map fun c => if c = '\n' ∨ c = '\r' then ' ' else c

/-- One of the four keys of sample tags. -/
def tagKey (i : Nat) : Text := "key".toList ++ Nat.toDigits 10 (i % 4)

namespace Line

/-- The text of a sample line. -/
def text : Line → Text
  | .name i => Tag.line "name".toList (pick names i)
  | .tag i value => Tag.line (tagKey i) (oneLine value)
  | .head i rest => pick heads i ++ ' ' :: oneLine rest
  | .body text true => oneLine text ++ [';']
  | .body text false => oneLine text
  | .control true => "commit;".toList
  | .control false => "rollback; -- undo".toList
  | .comment text => "-- ".toList ++ oneLine text
  | .blank => []
  | .raw text => text

end Line

/-- A sample script: every line is followed by a line feed. -/
def script (lines : List Line) : Text := lines.flatMap fun l => l.text ++ ['\n']

end NamedSql.Sample
