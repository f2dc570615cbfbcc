-- Cursors on a desk keep to themselves. What a cursor shows and answers comes from its
-- own requests alone, where a clone has lived what its original had lived by then. It is
-- told by a spot in the list of the entries of its order.
import NamedSql.Desk
import NamedSql.Proofs.Walks

namespace NamedSql

/-! ## The pure model -/

/-- A spot in a list: so many items lie behind it, and the last of them may be in view. -/
structure Spot where
  behind : Nat
  inView : Bool
  deriving DecidableEq, Repr

namespace Spot

/-- Before the first item. -/
def start : Spot := ⟨0, false⟩

/-- Behind all `n` items, with none in view. -/
def past (n : Nat) : Spot := ⟨n, false⟩

/-- The spot with item `i` of `n` in view. It is past the items if there is no such item. -/
def viewing (n i : Nat) : Spot := if i < n then ⟨i + 1, true⟩ else past n

/-- The item in view. -/
def item? {α : Type} (items : List α) (s : Spot) : Option α :=
  if s.inView then items[s.behind - 1]? else none

/-- The spot after a request, in a list of `n` items. -/
def after (n : Nat) (s : Spot) : Request → Spot
  | .advance _ | .next _ => viewing n s.behind
  | .nth _ m => viewing n (s.behind + m)
  | .rest _ => past n
  | .reset _ => start
  | .count _ | .last _ | .tag _ _ | .current _ | .openFile | .openSplit | .clone _ => s

/-- The answer to a request at a spot in a list of statements. -/
def answer (ss : List Statement) (s : Spot) : Request → Answer
  | .advance _ => .bound (s.behind < ss.length)
  | .next _ => .visited ss[s.behind]?
  | .nth _ m => .visited ss[s.behind + m]?
  | .rest _ => .visitedAll (ss.drop s.behind)
  | .count _ => .counted (ss.length - s.behind)
  | .last _ => .visited (ss.drop s.behind).getLast?
  | .tag _ key => .value ((s.item? ss).bind (·.tag? key))
  | .current _ => .current (s.item? ss)
  | .reset _ => .done
  | .openFile | .openSplit | .clone _ => .noCursor

end Spot

/-- The cursor that a request asks for something. -/
def Request.subject? : Request → Option Nat
  | .openFile | .openSplit | .clone _ => none
  | .advance i | .next i | .nth i _ | .rest i | .count i | .last i | .tag i _ | .current i
  | .reset i => some i

/-- What a cursor has lived: the order that it was put down for, and its own requests. -/
structure Life where
  order : Order
  requests : List Request
  deriving DecidableEq, Repr

namespace Life

/-- The lives on a desk after one more request. -/
def more (ls : List Life) : Request → List Life
  | .openFile => ls ++ [⟨.file, []⟩]
  | .openSplit => ls ++ [⟨.sequential, []⟩, ⟨.concurrent, []⟩]
  | .clone i => ls ++ ls[i]?.toList
  | r =>
    match r.subject? with
    | some i => ls.modify i fun l => { l with requests := l.requests ++ [r] }
    | none => ls

/-- The lives on a desk that was empty at first. -/
def all (requests : List Request) : List Life := requests.foldl more []

/-- Where a life leads to in a list of `n` items. -/
def spot (n : Nat) (l : Life) : Spot := l.requests.foldl (Spot.after n) .start

/-- What is answered to one more request. -/
def answer (c : Catalog) (l : Life) (r : Request) : Answer :=
  (l.spot (c.visits l.order).length).answer ((c.visits l.order).map (·.2)) r

end Life

/-- The cursor that stands at a spot of an order. -/
def Cursor.standing (c : Catalog) (o : Order) (s : Spot) : Cursor c :=
  ⟨o, s.behind, s.item? (c.visits o)⟩

/-- The cursor that a life has led to. -/
def Life.cursor (c : Catalog) (l : Life) : Cursor c :=
  .standing c l.order (l.spot (c.visits l.order).length)

/-! ## Spots -/

namespace Spot

theorem item?_map {α β : Type} (f : α → β) (items : List α) (s : Spot) :
    (s.item? items).map f = s.item? (items.map f) := by
  unfold item?
  split
  · rw [List.getElem?_map]
  · rfl

theorem item?_viewing {α : Type} (items : List α) (i : Nat) :
    (viewing items.length i).item? items = items[i]? := by
  unfold viewing item? past
  split
  · rfl
  · rename_i hge
    rw [List.getElem?_eq_none (Nat.le_of_not_lt hge)]
    rfl

/-- No more lies behind a spot than there is, and what is in view lies behind. -/
structure Within (n : Nat) (s : Spot) : Prop where
  behind_le : s.behind ≤ n
  behind_pos : s.inView = true → 0 < s.behind

theorem within_viewing (n i : Nat) : (viewing n i).Within n := by
  unfold viewing past
  split
  · exact ⟨by simp only; omega, fun _ => Nat.succ_pos i⟩
  · exact ⟨Nat.le_refl n, by simp⟩

theorem Within.after {n : Nat} {s : Spot} (hs : s.Within n) (r : Request) :
    (s.after n r).Within n := by
  cases r with
  | advance _ | next _ | nth _ _ => exact within_viewing n _
  | rest _ => exact ⟨Nat.le_refl n, by simp [Spot.after, past]⟩
  | reset _ => exact ⟨Nat.zero_le n, by simp [Spot.after, start]⟩
  | _ => exact hs

theorem within_spot (n : Nat) (l : Life) : (l.spot n).Within n := by
  have hstart : start.Within n := ⟨Nat.zero_le n, by simp [start]⟩
  suffices h : ∀ s : Spot, s.Within n → (l.requests.foldl (after n) s).Within n from h _ hstart
  induction l.requests with
  | nil => exact fun s hs => hs
  | cons r rest ih => exact fun s hs => ih _ (hs.after r)

end Spot

/-! ## One cursor -/

namespace Cursor

theorem statement?_standing (c : Catalog) (o : Order) (s : Spot) :
    (standing c o s).statement? = s.item? ((c.visits o).map (·.2)) :=
  Spot.item?_map _ _ _

theorem skip_standing (c : Catalog) (o : Order) (s : Spot) (m : Nat) :
    (standing c o s).skip m =
      standing c o (.viewing (c.visits o).length (s.behind + m)) := by
  unfold standing
  rw [Spot.item?_viewing]
  rcases Nat.lt_or_ge (s.behind + m) (c.visits o).length with h | h
  · rw [skip_of_lt h, Spot.viewing, if_pos h]
  · rw [skip_of_le h, Spot.viewing, if_neg (Nat.not_lt.2 h), List.getElem?_eq_none h]
    rfl

theorem statement?_viewing (c : Catalog) (o : Order) (i : Nat) :
    (standing c o (.viewing (c.visits o).length i)).statement? = ((c.visits o).map (·.2))[i]? := by
  rw [statement?_standing, ← List.length_map (f := (·.2)), Spot.item?_viewing]

/-- A request moves a cursor as it moves the spot, and the spot tells the answer. -/
theorem perform_standing (c : Catalog) (o : Order) (s : Spot) {r : Request}
    (hr : r.subject?.isSome = true) :
    (standing c o s).perform r =
      (standing c o (s.after (c.visits o).length r), s.answer ((c.visits o).map (·.2)) r) := by
  have hadvance : (standing c o s).advance =
      standing c o (.viewing (c.visits o).length s.behind) := skip_standing c o s 0
  have hrest : (standing c o s).rest =
      (((c.visits o).map (·.2)).drop s.behind, standing c o (.past (c.visits o).length)) := by
    rw [rest_eq, List.map_drop]
    rfl
  cases r with
  | advance _ =>
    have hbound : (standing c o (.viewing (c.visits o).length s.behind)).current.isSome =
        decide (s.behind < (c.visits o).length) := by
      rw [standing, Spot.item?_viewing, Bool.eq_iff_iff, decide_eq_true_iff, isSome_getElem?]
    rw [perform, hadvance, hbound, Spot.after, Spot.answer, List.length_map]
  | next _ => rw [perform, hadvance, statement?_viewing, Spot.after, Spot.answer]
  | nth _ m => rw [perform, skip_standing, statement?_viewing, Spot.after, Spot.answer]
  | rest _ => rw [perform, hrest, Spot.after, Spot.answer]
  | count _ => rw [perform, hrest, Spot.after, Spot.answer, List.length_drop]
  | last _ => rw [perform, hrest, Spot.after, Spot.answer]
  | tag _ key => rw [perform, tag?, statement?_standing, Spot.after, Spot.answer]
  | current _ => rw [perform, statement?_standing, Spot.after, Spot.answer]
  | reset _ => rfl
  | openFile | openSplit | clone _ => simp [Request.subject?] at hr

end Cursor

/-! ## All cursors -/

namespace Desk

variable {c : Catalog}

/-- A request concerns one cursor and leaves the others where they are. -/
theorem perform_subject (d : Desk c) {r : Request} {i : Nat} (h : r.subject? = some i) :
    d.perform r =
      match d[i]? with
      | some k => (d.set i (k.perform r).1, (k.perform r).2)
      | none => (d, .noCursor) := by
  cases r with
  | openFile | openSplit | clone _ => cases h
  | _ =>
    cases h
    simp only [perform, Request.shown, Option.bind_some]
    cases d[i]? <;> rfl

end Desk

namespace Life

theorem perform_cursor (c : Catalog) (l : Life) {r : Request} (hr : r.subject?.isSome = true) :
    (cursor c l).perform r =
      (cursor c { l with requests := l.requests ++ [r] }, l.answer c r) := by
  unfold cursor answer spot
  rw [Cursor.perform_standing c l.order _ hr, List.foldl_append]
  rfl

theorem map_modify {α β : Type} (f : α → α) (g : α → β) {xs : List α} {i : Nat} {x : α}
    (h : xs[i]? = some x) : (xs.modify i f).map g = (xs.map g).set i (g (f x)) := by
  refine List.ext_getElem? fun j => ?_
  rw [List.getElem?_map, List.getElem?_modify, List.getElem?_set, List.getElem?_map]
  by_cases hij : i = j
  · subst hij
    obtain ⟨hlt, hx⟩ := List.getElem?_eq_some_iff.1 h
    simp [hlt, hx]
  · simp [hij]

/-- A request changes the cursors as it changes the lives. -/
theorem perform_map (c : Catalog) (ls : List Life) (r : Request) :
    (Desk.perform (ls.map (cursor c)) r).1 = (more ls r).map (cursor c) := by
  cases h : r.subject? with
  | none =>
    cases r with
    | openFile | openSplit =>
      rw [more, List.map_append]
      rfl
    | clone i => cases hi : ls[i]? <;> simp [Desk.perform, more, hi]
    | _ => cases h
  | some i =>
    have hmore : more ls r = ls.modify i fun l => { l with requests := l.requests ++ [r] } := by
      cases r <;> cases h <;> rfl
    rw [Desk.perform_subject _ h, hmore, List.getElem?_map]
    cases hi : ls[i]? with
    | none =>
      rw [List.modify_eq_self (List.getElem?_eq_none_iff.1 hi)]
      rfl
    | some l =>
      rw [map_modify _ _ hi]
      change (ls.map (cursor c)).set i ((cursor c l).perform r).1 = _
      rw [perform_cursor c l (h ▸ rfl)]

theorem after_map (c : Catalog) (requests : List Request) (ls : List Life) :
    Desk.after (ls.map (cursor c)) requests = (requests.foldl more ls).map (cursor c) := by
  induction requests generalizing ls with
  | nil => rfl
  | cons r rest ih =>
    rw [List.foldl_cons, ← ih, ← perform_map]
    rfl

end Life

/-! ## The laws -/

/-- Wherever requests have led on a desk, each cursor stands where its own requests lead in the
list of the entries of its order, and so it answers. No cursor stands beyond its list, so many
statements are to come as it says, and the entry that is bound is the last one behind it. -/
theorem cursors_keep_to_themselves (c : Catalog) (requests : List Request) :
    let d := Desk.after ([] : Desk c) requests
    let lives := Life.all requests
    d = lives.map (Life.cursor c) ∧
    (∀ i l, lives[i]? = some l → ∀ r, r.subject? = some i → (d.perform r).2 = l.answer c r) ∧
    ∀ k ∈ d, k.next ≤ k.length ∧ k.length = (c.visits k.order).length ∧
      k.remaining = ((c.visits k.order).drop k.next).length ∧
      (∀ n, (k.drain n).1 = (((c.visits k.order).drop k.next).take n).map (·.2)) ∧
      ∀ e, k.current = some e → 0 < k.next ∧ (c.visits k.order)[k.next - 1]? = some e := by
  intro d lives
  have hlives : d = lives.map (Life.cursor c) := Life.after_map c requests []
  refine ⟨hlives, fun i l hl r hr => ?_, fun k hk => ?_⟩
  · rw [Desk.perform_subject d hr, hlives, List.getElem?_map, hl]
    change ((Life.cursor c l).perform r).2 = _
    rw [Life.perform_cursor c l (hr ▸ rfl)]
  · rw [hlives, List.mem_map] at hk
    obtain ⟨l, -, rfl⟩ := hk
    have hwithin := Spot.within_spot (c.visits l.order).length l
    refine ⟨?_, Cursor.length_eq _, ?_, fun n => Cursor.drain_fst n _, fun e he => ?_⟩
    · rw [Cursor.length_eq]
      exact hwithin.behind_le
    · rw [Cursor.remaining, Cursor.length_eq, List.length_drop]
    · change (l.spot (c.visits l.order).length).item? (c.visits l.order) = some e at he
      unfold Spot.item? at he
      split at he
      · rename_i hview
        exact ⟨hwithin.behind_pos hview, he⟩
      · cases he

/-- Cursors over two statements: one is cloned half-way and then skips past the end, its clone
goes on from there, and one that has met all it can is put back. -/
theorem a_clone_goes_on_where_its_original_stood :
    let a : Statement := ⟨"delete from t".toList, .dml, Tags.single Line.nameKey ['A'], 0⟩
    let b : Statement := ⟨"select 1 from t".toList, .dql, Tags.single Line.nameKey ['B'], 1⟩
    let c : Catalog := ⟨[(['a'], a), (['b'], b)]⟩
    let requests := [Request.openFile, .openSplit, .advance 0, .clone 0, .nth 0 5, .rest 2,
      .clone 2, .reset 2]
    let d := Desk.after ([] : Desk c) requests
    d = [⟨.file, 2, none⟩, ⟨.sequential, 0, none⟩, ⟨.concurrent, 0, none⟩,
        ⟨.file, 1, some (['a'], a)⟩, ⟨.concurrent, 1, none⟩] ∧
      (d.perform (.next 3)).2 = .visited (some b) ∧ (d.perform (.next 4)).2 = .visited none ∧
      ∀ k ∈ d, k.next ≤ k.length := by
  intro a b c requests d
  obtain ⟨hstand, hanswer, hwithin⟩ := cursors_keep_to_themselves c requests
  have hclone : (Life.all requests)[3]? = some ⟨.file, [.advance 0]⟩ := by decide
  have hpast : (Life.all requests)[4]? = some ⟨.concurrent, [.rest 2]⟩ := by decide
  exact ⟨hstand, hanswer 3 _ hclone (.next 3) rfl, hanswer 4 _ hpast (.next 4) rfl,
    fun k hk => (hwithin k hk).1⟩

end NamedSql
