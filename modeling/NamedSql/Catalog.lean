-- The statements of a script under their lower-case names, in the order in which they were
-- finished, and the three orders in which they can be visited. Cursors walk a catalog in one
-- of its orders: a cursor starts before the first statement, each advance binds the next one,
-- and past the end no statement is bound. What one cursor does is nothing to the others.
import NamedSql.Statement
import NamedSql.Text.LowerCase

namespace NamedSql

/-- Statements under their keys. -/
structure Catalog where
  entries : List (Text × Statement)
  deriving DecidableEq, Repr

/-- An order in which the statements of a catalog are visited. -/
inductive Order where
  /-- All statements, as in the script. -/
  | file
  /-- Those that change data or tables, as in the script. -/
  | sequential
  /-- Those that only read data, as in the script. -/
  | concurrent
  deriving DecidableEq, Repr

/-- A statement of this kind takes part in the order. -/
def Order.admits : Order → Kind → Bool
  | .file, _ => true
  | .sequential, k => k == .dml || k == .ddl
  | .concurrent, k => k == .dql

namespace Catalog

def empty : Catalog := ⟨[]⟩

/-! ## The entries -/

def size (c : Catalog) : Nat := c.entries.length

def isEmpty (c : Catalog) : Bool := c.entries.isEmpty

/-- The keys, in order. -/
def names (c : Catalog) : List Text := c.entries.map (·.1)

def statements (c : Catalog) : List Statement := c.entries.map (·.2)

/-- The statement under exactly this key. -/
def find? (c : Catalog) (key : Text) : Option Statement :=
  (c.entries.find? fun e => e.1 == key).map (·.2)

def contains (c : Catalog) (key : Text) : Bool := (c.find? key).isSome

def putEntry (key : Text) (s : Statement) : List (Text × Statement) → List (Text × Statement)
  | [] => [(key, s)]
  | e :: es => if e.1 = key then (key, s) :: es else e :: putEntry key s es

/-- Puts a statement under a key: in the place of the one that has the key,
or at the end. -/
def put (c : Catalog) (key : Text) (s : Statement) : Catalog := ⟨putEntry key s c.entries⟩

/-- Under a new key a statement is put at the end. -/
theorem put_of_not_mem {c : Catalog} {key : Text} (h : key ∉ c.names) (s : Statement) :
    (c.put key s).entries = c.entries ++ [(key, s)] := by
  obtain ⟨es⟩ := c
  simp only [put, names] at h ⊢
  induction es with
  | nil => rfl
  | cons e es ih =>
    simp only [List.map_cons, List.mem_cons, not_or] at h
    simp [putEntry, Ne.symm h.1, ih h.2]

theorem contains_iff {c : Catalog} {key : Text} : c.contains key = true ↔ key ∈ c.names := by
  simp [contains, find?, names]

/-- Where the names differ, every entry is found under its name. -/
theorem find?_of_mem {c : Catalog} (h : c.names.Nodup) {e : Text × Statement}
    (he : e ∈ c.entries) : c.find? e.1 = some e.2 := by
  obtain ⟨es⟩ := c
  simp only [names, find?] at h he ⊢
  induction es with
  | nil => exact absurd he List.not_mem_nil
  | cons first rest ih =>
    obtain ⟨hnew, hrest⟩ := List.nodup_cons.1 h
    rcases List.mem_cons.1 he with rfl | he
    · simp
    · have hne : (first.1 == e.1) = false := by
        rw [beq_eq_false_iff_ne]
        intro heq
        exact hnew (List.mem_map.2 ⟨e, he, heq.symm⟩)
      rw [List.find?_cons, hne]
      exact ih hrest he

/-- Only the entry of a key is found under it. -/
theorem mem_of_find? {c : Catalog} {key : Text} {s : Statement} (h : c.find? key = some s) :
    (key, s) ∈ c.entries := by
  obtain ⟨e, he, rfl⟩ := Option.map_eq_some_iff.1 h
  have hkey : e.1 = key := by simpa using List.find?_some he
  rw [← hkey]
  exact List.mem_of_find?_eq_some he

/-! ## Looking up by name -/

/-- The statement of this name. The case of the name does not matter. -/
def get? (c : Catalog) (name : Text) : Option Statement := c.find? (Text.lower name)

def text? (c : Catalog) (name : Text) : Option Text := (c.get? name).map (·.text)

/-- The kind of the statement of this name. A name that is not there has
unknown kind. -/
def kind (c : Catalog) (name : Text) : Kind := ((c.get? name).map (·.kind)).getD .unknown

def tag? (c : Catalog) (name key : Text) : Option Text := (c.get? name).bind (·.tag? key)

/-! ## Visiting in order -/

/-- The places, counted from `i`, of the entries that take part in the order. -/
def placesFrom (o : Order) (i : Nat) : List (Text × Statement) → List Nat
  | [] => []
  | e :: es =>
    if o.admits e.2.kind then i :: placesFrom o (i + 1) es else placesFrom o (i + 1) es

/-- The places of the statements of an order. -/
def places (c : Catalog) (o : Order) : List Nat := placesFrom o 0 c.entries

theorem length_placesFrom (o : Order) (i : Nat) (es : List (Text × Statement)) :
    (placesFrom o i es).length = (es.filter fun e => o.admits e.2.kind).length := by
  induction es generalizing i with
  | nil => rfl
  | cons e es ih =>
    simp only [placesFrom, List.filter_cons]
    split <;> simp [ih]

/-! ## Comparing -/

/-- Two catalogs are the same if they have equally many entries, the same
statement under every key, and the same places in the two orders of running. -/
def same (a b : Catalog) : Bool :=
  a.size == b.size && a.entries.all (fun e => b.find? e.1 == some e.2) &&
    a.places .sequential == b.places .sequential && a.places .concurrent == b.places .concurrent

theorem same_self {c : Catalog} (h : c.names.Nodup) : c.same c = true := by
  unfold same
  simp only [beq_self_eq_true, Bool.true_and, Bool.and_true, List.all_eq_true, beq_iff_eq]
  intro e he
  exact find?_of_mem h he

end Catalog

/-! ## Cursors -/

/-- The entry that is visited after `i` others. -/
def Catalog.entryAt? (c : Catalog) (o : Order) (i : Nat) : Option (Text × Statement) :=
  (c.places o)[i]?.bind (c.entries[·]?)

/-- A walk over the catalog `c`. -/
structure Cursor (c : Catalog) where
  order : Order
  /-- How many entries have been visited. -/
  next : Nat
  /-- The entry that the last advance bound. -/
  current : Option (Text × Statement)
  deriving DecidableEq, Repr

namespace Cursor

variable {c : Catalog}

def start (c : Catalog) (o : Order) : Cursor c := ⟨o, 0, none⟩

/-! ## What a cursor shows -/

/-- The number of statements of the order. -/
def length (k : Cursor c) : Nat := (c.places k.order).length

def isEmpty (k : Cursor c) : Bool := k.length == 0

/-- The number of statements that are still to come. -/
def remaining (k : Cursor c) : Nat := k.length - k.next

/-- The key of the statement that is bound. -/
def name? (k : Cursor c) : Option Text := k.current.map (·.1)

def statement? (k : Cursor c) : Option Statement := k.current.map (·.2)

def text? (k : Cursor c) : Option Text := k.statement?.map (·.text)

/-- The kind of the statement that is bound, and unknown if there is none. -/
def kind (k : Cursor c) : Kind := (k.statement?.map (·.kind)).getD .unknown

def ordinal? (k : Cursor c) : Option Nat := k.statement?.map (·.ordinal)

def tag? (k : Cursor c) (key : Text) : Option Text := k.statement?.bind (·.tag? key)

/-! ## Moving -/

/-- Binds the next statement. Past the end none is bound. -/
def advance (k : Cursor c) : Cursor c :=
  match c.entryAt? k.order k.next with
  | some e => { k with next := k.next + 1, current := some e }
  | none => { k with next := k.length, current := none }

/-- Goes back to before the first statement. -/
def reset (k : Cursor c) : Cursor c := { k with next := 0, current := none }

/-- Skips `n` statements and binds the one after them. It stops where no
statement is bound. -/
def skip (k : Cursor c) : Nat → Cursor c
  | 0 => k.advance
  | n + 1 => if k.advance.current.isSome then k.advance.skip n else k.advance

/-- Advances until no statement is bound, or `fuel` times: the statements
that were bound, and the cursor after them. -/
def drain (k : Cursor c) : Nat → List Statement × Cursor c
  | 0 => ([], k)
  | fuel + 1 =>
    match k.advance.statement? with
    | some s => let (rest, last) := k.advance.drain fuel; (s :: rest, last)
    | none => ([], k.advance)

/-- All statements that are still to come, and the cursor past the end. -/
def rest (k : Cursor c) : List Statement × Cursor c := k.drain (k.remaining + 1)

end Cursor

/-- All statements of an order, as a cursor meets them. -/
def Catalog.walk (c : Catalog) (o : Order) : List Statement := (Cursor.start c o).rest.1

end NamedSql
