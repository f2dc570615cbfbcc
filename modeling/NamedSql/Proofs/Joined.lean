-- One script behind another. Where the first leaves nothing open that the second would
-- add to, the statements of both come one behind the other, and nothing about them
-- changes but the ordinals of the second. Only a name of the first is refused in the
-- second, even if no terminator comes to it.
import Mathlib.Data.List.Basic
import NamedSql.Proofs.Segments

namespace NamedSql

/-! ## The pure model -/

/-- The statement, with `n` more statements before it. -/
def Statement.behind (s : Statement) (n : Nat) : Statement := { s with ordinal := s.ordinal + n }

/-- The key that a line of the script takes, if it is a name tag. -/
def Line.takenKey? : Line → Option Text
  | .name value => some (Text.lower value)
  | _ => none

namespace Catalog

/-- The statements of one catalog behind those of another. -/
def followedBy (c later : Catalog) : Catalog :=
  ⟨c.entries ++ later.entries.map fun e => (e.1, e.2.behind c.size)⟩

/-- The first name tag of the lines whose key the catalog has. -/
def firstTaken? (c : Catalog) (lines : List Text) : Option Text :=
  (lines.filterMap fun raw => (Line.classify raw).takenKey?).find? c.contains

/-! ## The places of joined catalogs -/

theorem placesFrom_append (o : Order) (i : Nat) (xs ys : List (Text × Statement)) :
    placesFrom o i (xs ++ ys) = placesFrom o i xs ++ placesFrom o (i + xs.length) ys := by
  induction xs generalizing i with
  | nil => rfl
  | cons x xs ih =>
    have hnext : i + (x :: xs).length = i + 1 + xs.length := by
      rw [List.length_cons]
      omega
    rw [List.cons_append, placesFrom, placesFrom, ih, hnext]
    split <;> rfl

theorem placesFrom_behind (o : Order) (i n m : Nat) (es : List (Text × Statement)) :
    placesFrom o (i + n) (es.map fun e => (e.1, e.2.behind m)) =
      (placesFrom o i es).map (· + n) := by
  induction es generalizing i with
  | nil => rfl
  | cons e es ih =>
    have hkind : (e.2.behind m).kind = e.2.kind := rfl
    rw [List.map_cons, placesFrom, placesFrom, hkind, Nat.add_right_comm, ih]
    split <;> rfl

theorem places_followedBy (c later : Catalog) (o : Order) :
    (c.followedBy later).places o = c.places o ++ (later.places o).map (· + c.size) := by
  unfold places followedBy
  rw [placesFrom_append, placesFrom_behind]
  rfl

end Catalog

/-! ## The segments of joined scripts -/

namespace Segment

theorem cut_fst (ls : List Line) : (cut ls).1 = ls.takeWhile (!·.isName) := by
  induction ls with
  | nil => rfl
  | cons l ls ih =>
    cases l with
    | name value => rfl
    | _ => simp [cut, ih, Line.isName]

theorem map_key_ofLines (ls : List Line) : (ofLines ls).map key = ls.filterMap Line.takenKey? := by
  unfold ofLines
  induction ls with
  | nil => rfl
  | cons l ls ih =>
    cases l with
    | name value => exact congrArg (Text.lower value :: ·) ih
    | _ => exact ih

theorem catalog_append (earlier later : List Segment) :
    catalog (earlier ++ later) = (catalog earlier).followedBy (catalog later) := by
  have hsize : (catalog earlier).size = (earlier.filter isComplete).length := by
    simp [Catalog.size, catalog]
  have hlater := @List.zipIdx_eq_map_add _ (later.filter isComplete) (catalog earlier).size
  unfold Catalog.followedBy
  rw [hsize] at hlater ⊢
  unfold catalog
  rw [List.filter_append, List.zipIdx_append, Nat.zero_add, hlater, List.map_append, List.map_map,
    List.map_map]
  simp [Function.comp_def, Statement.behind, statement, Nat.add_comm]

/-- Where no name is taken again among the segments that come behind others, the first that
is refused is the first that the others have. -/
theorem firstTaken?_append {before later : List Segment} (h : firstTaken? before later = none)
    (earlier : List Segment) :
    firstTaken? (earlier ++ before) later = (later.map key).find? (catalog earlier).contains := by
  induction later generalizing before with
  | nil => rfl
  | cons s rest ih =>
    rw [firstTaken?_cons] at h
    split at h
    · cases h
    · rename_i hfree
      have hcontains : (catalog (earlier ++ before)).contains s.key =
          (catalog earlier).contains s.key := by
        rw [contains_catalog] at hfree
        rw [contains_catalog, contains_catalog, List.any_append, Bool.eq_false_iff.2 hfree,
          Bool.or_false]
      rw [firstTaken?_cons, hcontains, List.append_assoc, ih h, List.map_cons, List.find?_cons]
      cases (catalog earlier).contains s.key <;> rfl

theorem firstTaken?_later {later : List Segment} (h : firstRepeat? later = none)
    (earlier : List Segment) :
    firstTaken? earlier later = (later.map key).find? (catalog earlier).contains := by
  have happend := @firstTaken?_append [] later h earlier
  rwa [List.append_nil] at happend

end Segment

/-! ## A run over joined scripts -/

namespace Script

/-- The lines before the first name tag do nothing if nothing is open, or if all of them are
ignored. -/
theorem steps_leading {a : Assembly} {ls : List Line}
    (h : a.draft = none ∨ ∀ l ∈ ls.takeWhile (!·.isName), l.isIgnorable = true) :
    a.steps (ls.takeWhile (!·.isName)) = .ok a := by
  rcases h with h | h
  · obtain ⟨c, o⟩ := a
    obtain rfl : o = none := h
    rw [← Segment.cut_fst]
    exact Assembly.steps_outside c (Segment.not_isName_cut ls).1
  · exact a.steps_ignorable h

theorem parseLines_append {first second : List Text} {o : Option Draft}
    {earlier : List Segment}
    (hfirst : Assembly.start.takeAll first = .ok ⟨Segment.catalog earlier, o⟩)
    (hgap : o = none ∨
      ∀ l ∈ (second.map Line.classify).takeWhile (!·.isName), l.isIgnorable = true) :
    parseLines (first ++ second) =
      match Segment.firstTaken? earlier (Segment.ofLines (second.map Line.classify)) with
      | some name => .error (.duplicateName name)
      | none => .ok (Segment.catalog (earlier ++ Segment.ofLines (second.map Line.classify))) := by
  rw [Assembly.takeAll_eq_steps] at hfirst
  unfold parseLines
  rw [Assembly.takeAll_eq_steps, List.map_append, Assembly.steps_append_ok hfirst]
  generalize second.map Line.classify = ls at hgap ⊢
  have hleading := steps_leading (a := ⟨Segment.catalog earlier, o⟩) hgap
  have hsplit := Assembly.steps_append_ok hleading ((Segment.ofLines ls).flatMap Segment.lines)
  rw [← Segment.cut_fst, Segment.ofLines, Segment.lines_cut] at hsplit
  rw [hsplit]
  exact Segment.steps_segments earlier _ o (Segment.not_isName_cut ls).2

end Script

/-! ## The laws -/

/-- Two scripts that are read can be read one behind the other, if the first leaves no
statement open or the second starts with its first name tag, but for lines that are ignored.
The first name of the second that the first has is refused. Where there is none, the
statements come one behind the other, and so do their places in each order. -/
theorem scripts_can_be_put_together {first second : List Text} {a b : Catalog}
    (ha : Script.parseLines first = .ok a) (hb : Script.parseLines second = .ok b)
    (hgap : Assembly.start.takeAll first = .ok ⟨a, none⟩ ∨
      ∀ l ∈ (second.map Line.classify).takeWhile (!·.isName), l.isIgnorable = true) :
    (Script.parseLines (first ++ second) =
      match a.firstTaken? second with
      | some name => .error (.duplicateName name)
      | none => .ok (a.followedBy b)) ∧
    ∀ o, (a.followedBy b).places o = a.places o ++ (b.places o).map (· + a.size) := by
  refine ⟨?_, Catalog.places_followedBy a b⟩
  obtain ⟨o, htake⟩ := Script.exists_takeAll ha
  obtain ⟨-, rfl⟩ := Script.segments_of_parseLines ha
  obtain ⟨hfree, rfl⟩ := Script.segments_of_parseLines hb
  have hopen : o = none ∨
      ∀ l ∈ (second.map Line.classify).takeWhile (!·.isName), l.isIgnorable = true := by
    refine hgap.imp_left fun hnone => ?_
    rw [htake] at hnone
    cases hnone
    rfl
  have hkeys : second.filterMap (fun raw => (Line.classify raw).takenKey?) =
      (Segment.ofLines (second.map Line.classify)).map Segment.key := by
    rw [Segment.map_key_ofLines, List.filterMap_map]
    rfl
  rw [Script.parseLines_append htake hopen, Segment.firstTaken?_later hfree, Segment.catalog_append,
    Catalog.firstTaken?, hkeys]

/-- A script that leaves a statement open, and one that opens the same name again behind a
comment. In the other direction the name is refused, though no terminator comes to it. -/
theorem an_open_statement_gives_its_name_away :
    let first := ["-- tag=name: A".toList, "select 1 from t;".toList, "-- tag=name: B".toList,
      "update".toList]
    let second := ["-- next".toList, "-- tag=name: b".toList, "delete from t;".toList]
    let a : Catalog :=
      ⟨[(['a'], ⟨"select 1 from t".toList, .dql, Tags.single Line.nameKey ['A'], 0⟩)]⟩
    let b : Catalog :=
      ⟨[(['b'], ⟨"delete from t".toList, .dml, Tags.single Line.nameKey ['b'], 0⟩)]⟩
    Script.parseLines first = .ok a ∧ Script.parseLines second = .ok b ∧
      Script.parseLines (first ++ second) = .ok (a.followedBy b) ∧
      (a.followedBy b).places .sequential = [1] ∧
      Script.parseLines (second ++ first) = .error (.duplicateName ['b']) := by
  intro first second a b
  have ha : Script.parseLines first = .ok a := by decide +kernel
  have hb : Script.parseLines second = .ok b := by decide +kernel
  have hleading : ∀ l ∈ (second.map Line.classify).takeWhile (!·.isName),
      l.isIgnorable = true := by decide +kernel
  have hclosed : Assembly.start.takeAll second = .ok ⟨b, none⟩ := by decide +kernel
  have hfree : a.firstTaken? second = none := by decide +kernel
  have htaken : b.firstTaken? first = some ['b'] := by decide +kernel
  obtain ⟨hthere, hplaces⟩ := scripts_can_be_put_together ha hb (Or.inr hleading)
  obtain ⟨hback, -⟩ := scripts_can_be_put_together hb ha (Or.inl hclosed)
  rw [hfree] at hthere
  rw [htaken] at hback
  refine ⟨ha, hb, hthere, ?_, hback⟩
  rw [hplaces]
  decide +kernel

end NamedSql
