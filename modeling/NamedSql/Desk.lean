-- A desk holds cursors over one catalog, numbered in the order in which they
-- were put there. A request concerns one of them, and the others stay where
-- they are.
import NamedSql.Catalog

namespace NamedSql

/-- What can be asked of a desk. The number says which cursor is meant. -/
inductive Request where
  /-- Puts down a cursor over all statements. -/
  | openFile
  /-- Puts down a cursor for each of the two orders of running. -/
  | openSplit
  /-- Puts down a second cursor that stands where this one stands. -/
  | clone (i : Nat)
  | advance (i : Nat)
  | next (i : Nat)
  | nth (i n : Nat)
  | rest (i : Nat)
  /-- Counts the statements to come and moves nothing. -/
  | count (i : Nat)
  /-- Looks for the last statement to come and moves nothing. -/
  | last (i : Nat)
  | tag (i : Nat) (key : Text)
  | current (i : Nat)
  | reset (i : Nat)
  deriving DecidableEq, Repr

inductive Answer where
  /-- So many cursors stand on the desk. -/
  | cursors (count : Nat)
  /-- Whether a statement is bound. -/
  | bound (isBound : Bool)
  /-- The statement that was met. -/
  | visited (s : Option Statement)
  | visitedAll (ss : List Statement)
  | counted (n : Nat)
  | value (v : Option Text)
  /-- The statement that is bound. -/
  | current (s : Option Statement)
  | done
  /-- There is no such cursor. -/
  | noCursor
  deriving DecidableEq, Repr

namespace Cursor

variable {c : Catalog}

/-- What a request does to the cursor that it concerns, and the answer. The
number in the request plays no part. -/
def perform (k : Cursor c) : Request → Cursor c × Answer
  | .advance _ => (k.advance, .bound k.advance.current.isSome)
  | .next _ => (k.advance, .visited k.advance.statement?)
  | .nth _ n => (k.skip n, .visited (k.skip n).statement?)
  | .rest _ => (k.rest.2, .visitedAll k.rest.1)
  | .count _ => (k, .counted k.rest.1.length)
  | .last _ => (k, .visited k.rest.1.getLast?)
  | .tag _ key => (k, .value (k.tag? key))
  | .current _ => (k, .current k.statement?)
  | .reset _ => (k.reset, .done)
  | .openFile | .openSplit | .clone _ => (k, .noCursor)

end Cursor

/-- The number of the cursor whose state a request shows afterwards, on a
desk of `count` cursors. -/
def Request.shown (count : Nat) : Request → Option Nat
  | .openFile | .openSplit => none
  | .clone _ => some count
  | .advance i | .next i | .nth i _ | .rest i | .count i | .last i | .tag i _ | .current i
  | .reset i => some i

/-- Cursors over the catalog `c`. -/
abbrev Desk (c : Catalog) := List (Cursor c)

namespace Desk

variable {c : Catalog}

/-- The desk after a request, and the answer. -/
def perform (d : Desk c) : Request → Desk c × Answer
  | .openFile => let d' := d ++ [.start c .file]; (d', .cursors d'.length)
  | .openSplit =>
    let d' := d ++ [.start c .sequential, .start c .concurrent]
    (d', .cursors d'.length)
  | .clone i =>
    match d[i]? with
    | some k => (d ++ [k], .cursors (d.length + 1))
    | none => (d, .noCursor)
  | r =>
    match (r.shown d.length).bind fun i => d[i]?.map fun k => (i, k.perform r) with
    | some (i, k, answer) => (d.set i k, answer)
    | none => (d, .noCursor)

/-- The desk after many requests. -/
def after (d : Desk c) (requests : List Request) : Desk c :=
  requests.foldl (fun d r => (d.perform r).1) d

/-- The answers to many requests, each with the cursor whose state it shows. -/
def run (d : Desk c) : List Request → List (Answer × Option (Cursor c))
  | [] => []
  | r :: rest =>
    let (d', answer) := d.perform r
    (answer, (r.shown d.length).bind (d'[·]?)) :: run d' rest

end Desk

end NamedSql
