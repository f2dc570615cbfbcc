-- The listing of a script: its statements in each of the three orders. Each
-- section is a title, a line for each statement, and an empty line.
import NamedSql.Script

namespace NamedSql.Listing

/-- The title of the section for an order. -/
def title : Order → Text
  | .file => "all the statements, in the same order as in the script:".toList
  | .sequential => "statements to run sequentially, preserving script order:".toList
  | .concurrent => "statements that may run concurrently:".toList

/-- The line of a statement. -/
def line (s : Statement) : Text :=
  "  [".toList ++ s.kind.label ++ "] ".toList ++ s.name ++ ": ".toList ++ s.text

/-- The lines of the section for an order. -/
def sectionLines (c : Catalog) (o : Order) : List Text :=
  title o :: (c.walk o).map line ++ [[]]

/-- The lines of the listing. -/
def lines (c : Catalog) : List Text :=
  sectionLines c .file ++ sectionLines c .sequential ++ sectionLines c .concurrent

/-- The listing: every line is followed by a line feed. -/
def text (c : Catalog) : Text := (lines c).flatMap (· ++ ['\n'])

/-- What a program leaves behind that lists a script. -/
structure Outcome where
  status : Nat
  output : Text
  errors : Text
  deriving DecidableEq, Repr

/-- Lists the script at some path. A script that is refused has no listing. -/
def run (source : Source) : Outcome :=
  match Script.parseSource source with
  | .ok c => ⟨0, text c, []⟩
  | .error e => ⟨1, [], "Error: ".toList ++ e.inFull ++ ['\n']⟩

/-- The path of the script that is listed if none is given. -/
def defaultPath : String := "demos/queries.sql"

end NamedSql.Listing
