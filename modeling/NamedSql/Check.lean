-- Checks on the catalog of a script: the ordinals count the statements, every
-- key is the name in lower case, colons are in order, and the two orders of
-- running share out the statements of known kind.
import NamedSql.Script

namespace NamedSql

/-- A rule that a catalog breaks. -/
inductive Violation where
  | ordinalNotPlace
  | keyNotName
  | colonsUnstable
  | fileOrderIncomplete
  | kindInWrongOrder
  | orderNotIncreasing
  | orderNotPartition
  deriving DecidableEq, Repr

namespace Catalog

def isIncreasing : List Nat → Bool
  | [] | [_] => true
  | a :: b :: rest => a ≤ b && isIncreasing (b :: rest)

/-- The rule that an entry at place `i` breaks, if it breaks one. -/
def entryViolation? (i : Nat) (e : Text × Statement) : Option Violation :=
  if e.2.ordinal ≠ i then some .ordinalNotPlace
  else if e.1 ≠ Text.lower e.2.name then some .keyNotName
  else if e.2.kind ≠ .ddl ∧ Colons.isStable e.2.text = false then some .colonsUnstable
  else none

/-- The rule that the orders of a catalog break, if they break one. -/
def orderViolation? (c : Catalog) : Option Violation :=
  let sequential := c.walk .sequential
  let concurrent := c.walk .concurrent
  if (c.walk .file).map (·.ordinal) ≠ List.range c.size then some .fileOrderIncomplete
  else if !(sequential.all fun s => Order.sequential.admits s.kind) ||
      !(concurrent.all fun s => Order.concurrent.admits s.kind) then some .kindInWrongOrder
  else if !isIncreasing (sequential.map (·.ordinal)) ||
      !isIncreasing (concurrent.map (·.ordinal)) then some .orderNotIncreasing
  else if sequential.length + concurrent.length +
      (c.statements.filter fun s => s.kind == .unknown).length ≠ c.size then some .orderNotPartition
  else none

/-- A rule that the catalog breaks, if it breaks one. -/
def violation? (c : Catalog) : Option Violation :=
  ((c.entries.zipIdx.findSome? fun (e, i) => entryViolation? i e).or c.orderViolation?)

end Catalog

/-- The catalog of a script with the rule that it breaks, if it breaks one.
A script that is refused has no catalog. -/
def Script.check (script : Text) : Option (Catalog × Option Violation) :=
  match Script.parse script with
  | .ok c => some (c, c.violation?)
  | .error _ => none

end NamedSql
