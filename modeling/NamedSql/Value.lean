-- Kinds and statements as values of a data format that describes itself. A kind
-- is written by its name, and read back from its name or from an object with
-- that name as its only key.
import NamedSql.Statement

namespace NamedSql

/-- A value of the data format. -/
inductive Value where
  | null
  | bool (b : Bool)
  | number (n : Nat)
  | text (t : Text)
  | list (items : List Value)
  | object (fields : List (Text × Value))
  deriving Inhabited

namespace Kind

/-- The name under which a kind is written. -/
def written : Kind → Text
  | .unknown => "Unknown".toList
  | .dml => "Dml".toList
  | .dql => "Dql".toList
  | .ddl => "Ddl".toList

def all : List Kind := [.unknown, .dml, .dql, .ddl]

/-- The kind that is written so. Case matters. -/
def ofWritten? (t : Text) : Option Kind := all.find? fun k => k.written == t

def toValue (k : Kind) : Value := .text k.written

/-- The kind that a value stands for. -/
def ofValue? : Value → Option Kind
  | .text t => ofWritten? t
  | .object [(key, .null)] => ofWritten? key
  | _ => none

end Kind

namespace Statement

def toValue (s : Statement) : Value :=
  .object [("text".toList, .text s.text), ("kind".toList, s.kind.toValue),
    ("tags".toList, .object (s.tags.entries.map fun e => (e.1, .text e.2))),
    ("ordinal".toList, .number s.ordinal)]

end Statement

end NamedSql
