-- A finished statement: its text, what kind it is, its tags, and its place among the
-- statements of the script. The kind is told from the words that the text starts with, and
-- a text of fewer than ten bytes has none. There is at most one value for each key of a
-- tag, and two collections of tags that answer alike under every key are equal.
import NamedSql.Line.Classify

namespace NamedSql

/-- What a statement does to the data. The order of the kinds is the order
of the constructors. -/
inductive Kind where
  /-- Not told. -/
  | unknown
  /-- Changes data. -/
  | dml
  /-- Only reads data. -/
  | dql
  /-- Changes tables or indexes. -/
  | ddl
  deriving DecidableEq, Repr, Inhabited, Ord

namespace Kind

/-! ## Telling the kind -/

/-- The fewest bytes of a text whose kind can be told. -/
def fewestBytes : Nat := 10

def dmlWords : List Text :=
  ["insert".toList, "update".toList, "delete".toList, "merge".toList]

def dqlWords : List Text := ["select".toList]

def ddlWords : List Text := ["create".toList, "drop table".toList, "drop index".toList]

/-- The kind that the first words of a text tell. -/
def ofWords (t : Text) : Kind :=
  if dmlWords.any (Text.startsWithWord · t) then .dml
  else if dqlWords.any (Text.startsWithWord · t) then .dql
  else if ddlWords.any (Text.startsWithWord · t) then .ddl
  else .unknown

/-- The kind of a statement with this text. -/
def ofText (t : Text) : Kind := if Text.byteLength t < fewestBytes then .unknown else ofWords t

/-! ## Uses of a kind -/

def isQuery (k : Kind) : Bool := k == .dql

/-- The kind as messages and listings show it. -/
def label : Kind → Text
  | .unknown => "UNKNOWN".toList
  | .dml => "DML".toList
  | .dql => "DQL".toList
  | .ddl => "DDL".toList

end Kind

/-! ## Tags -/

/-- Keys and values, in strictly increasing order of the keys. -/
@[ext]
structure Tags where
  entries : List (Text × Text)
  sorted : entries.Pairwise fun a b => a.1 < b.1
  deriving DecidableEq, Repr

namespace Tags

/-! ## Putting a value under a key -/

/-- Puts `value` under `key`. A value that stands there already is replaced. -/
def insertEntry (key value : Text) : List (Text × Text) → List (Text × Text)
  | [] => [(key, value)]
  | e :: es =>
    if key < e.1 then (key, value) :: e :: es
    else if key = e.1 then (key, value) :: es
    else e :: insertEntry key value es

theorem mem_insertEntry {key value : Text} {es : List (Text × Text)} {e : Text × Text}
    (h : e ∈ insertEntry key value es) : e = (key, value) ∨ e ∈ es := by
  induction es with
  | nil => simpa [insertEntry] using h
  | cons d ds ih =>
    simp only [insertEntry] at h
    split at h
    · simpa using h
    · split at h
      · rcases List.mem_cons.1 h with h | h
        · exact Or.inl h
        · exact Or.inr (List.mem_cons_of_mem _ h)
      · rcases List.mem_cons.1 h with h | h
        · exact Or.inr (h ▸ List.mem_cons_self)
        · rcases ih h with h | h
          · exact Or.inl h
          · exact Or.inr (List.mem_cons_of_mem _ h)

theorem sorted_insertEntry (key value : Text) (es : List (Text × Text))
    (h : es.Pairwise fun a b => a.1 < b.1) :
    (insertEntry key value es).Pairwise fun a b => a.1 < b.1 := by
  induction es with
  | nil => simp [insertEntry]
  | cons d ds ih =>
    obtain ⟨hd, hds⟩ := List.pairwise_cons.1 h
    simp only [insertEntry]
    split
    · rename_i hlt
      refine List.pairwise_cons.2 ⟨fun e he => ?_, h⟩
      rcases List.mem_cons.1 he with rfl | he
      · exact hlt
      · exact List.lt_trans hlt (hd e he)
    · rename_i hge
      split
      · rename_i heq
        exact List.pairwise_cons.2 ⟨fun e he => heq ▸ hd e he, hds⟩
      · rename_i hne
        refine List.pairwise_cons.2 ⟨fun e he => ?_, ih hds⟩
        rcases mem_insertEntry he with rfl | he
        · rcases Std.lt_trichotomy key d.1 with hlt | heq | hgt
          · exact absurd hlt hge
          · exact absurd heq hne
          · exact hgt
        · exact hd e he

def insert (tags : Tags) (key value : Text) : Tags :=
  ⟨insertEntry key value tags.entries, sorted_insertEntry key value _ tags.sorted⟩

/-! ## Making and asking -/

def empty : Tags := ⟨[], List.Pairwise.nil⟩

def single (key value : Text) : Tags := empty.insert key value

/-- The value under exactly this key. -/
def get? (tags : Tags) (key : Text) : Option Text :=
  (tags.entries.find? fun e => e.1 == key).map (·.2)

/-- The value under this key in any case. -/
def find? (tags : Tags) (key : Text) : Option Text := tags.get? (Tag.lowerKey key)

/-! ## Tags and the values under their keys -/

theorem get?_eq_some_iff {tags : Tags} {key value : Text} :
    tags.get? key = some value ↔ (key, value) ∈ tags.entries := by
  obtain ⟨es, h⟩ := tags
  simp only [get?]
  induction es with
  | nil => simp
  | cons e es ih =>
    obtain ⟨he, hes⟩ := List.pairwise_cons.1 h
    by_cases hk : e.1 = key
    · simp only [List.find?_cons, hk, beq_self_eq_true, Option.map_some, Option.some.injEq,
        List.mem_cons]
      constructor
      · rintro rfl
        exact Or.inl (by rw [← hk])
      · rintro (rfl | hm)
        · rfl
        · exact absurd (hk ▸ he _ hm) (List.lt_irrefl _)
    · simp only [List.find?_cons, beq_eq_false_iff_ne.2 hk, List.mem_cons]
      rw [ih hes]
      constructor
      · exact Or.inr
      · rintro (rfl | hm)
        · exact absurd rfl hk
        · exact hm

theorem get?_insert (tags : Tags) (key value other : Text) :
    (tags.insert key value).get? other = if key = other then some value else tags.get? other := by
  obtain ⟨es, h⟩ := tags
  simp only [insert, get?]
  induction es with
  | nil => by_cases hk : key = other <;> simp [insertEntry, hk]
  | cons e es ih =>
    have ih := ih (List.pairwise_cons.1 h).2
    simp only [insertEntry]
    split
    · by_cases hk : key = other <;> simp [hk]
    · split
      · rename_i heq
        by_cases hk : key = other
        · simp [hk]
        · simp [hk, ← heq]
      · rename_i hne
        by_cases hk : e.1 = other
        · have : key ≠ other := fun h => hne (h.trans hk.symm)
          simp [hk, this]
        · simpa [hk] using ih

/-- Tags that answer alike under every key are equal. -/
theorem ext_get? {a b : Tags} (h : ∀ key, a.get? key = b.get? key) : a = b := by
  have hmem : ∀ e : Text × Text, e ∈ a.entries ↔ e ∈ b.entries := fun e => by
    rw [← get?_eq_some_iff, ← get?_eq_some_iff, h]
  have nodup : ∀ c : Tags, c.entries.Nodup := fun c => c.sorted.imp fun {x y} hxy hEq => by
    subst hEq
    exact List.lt_irrefl _ hxy
  refine Tags.ext (List.Perm.eq_of_pairwise (fun x y _ _ hxy hyx => ?_) a.sorted b.sorted ?_)
  · exact absurd (List.lt_trans hxy hyx) (List.lt_irrefl _)
  · exact (List.perm_ext_iff_of_nodup (nodup a) (nodup b)).2 hmem

end Tags

/-! ## Statements -/

structure Statement where
  /-- The code in one line, without terminator. -/
  text : Text
  kind : Kind
  tags : Tags
  /-- How many statements of the script were finished before. -/
  ordinal : Nat
  deriving DecidableEq, Repr

namespace Statement

/-- The name as the script spells it. -/
def name (s : Statement) : Text := (s.tags.get? Line.nameKey).getD []

def tag? (s : Statement) (key : Text) : Option Text := s.tags.find? key

/-! ## The description of a statement -/

/-- The line of the description that shows one tag. -/
def tagLine (e : Text × Text) : Text := "Tag: ".toList ++ e.1 ++ " - Value: ".toList ++ e.2

/-- The text, the kind, and the tags in the order of their keys, each on a
line of its own. -/
def descriptionLines (s : Statement) : List Text :=
  ("Statement: ".toList ++ s.text) :: ("Kind: ".toList ++ s.kind.label) ::
    s.tags.entries.map tagLine

/-- The description: every line is followed by a line feed. -/
def description (s : Statement) : Text := s.descriptionLines.flatMap (· ++ ['\n'])

end Statement

end NamedSql
