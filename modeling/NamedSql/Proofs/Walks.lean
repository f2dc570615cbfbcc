-- What a cursor meets on its way. Each move leads to a place that counts the entries
-- behind it, and the place says which entry is bound. A walk meets the entries of its
-- order and ends behind the last, and the three orders share out the statements.
import NamedSql.Catalog
import NamedSql.Proofs.Refusals

namespace NamedSql

/-! ## The pure model -/

/-- The entries that take part in the order. -/
def Catalog.visits (c : Catalog) (o : Order) : List (Text × Statement) :=
  c.entries.filter fun e => o.admits e.2.kind

/-- The first statement was finished before the second, or both are one. -/
def Statement.notAfter (s t : Statement) : Bool := s.ordinal ≤ t.ordinal

/-! ## The places of an order -/

namespace Catalog

theorem length_places (c : Catalog) (o : Order) : (c.places o).length = (c.visits o).length :=
  length_placesFrom o 0 c.entries

/-- Every place leads to an entry, whatever stands before the first of them. -/
theorem getElem?_placesFrom (o : Order) (before es : List (Text × Statement)) (i : Nat) :
    (placesFrom o before.length es)[i]?.bind ((before ++ es)[·]?) =
      (es.filter fun e => o.admits e.2.kind)[i]? := by
  induction es generalizing before i with
  | nil => rfl
  | cons e es ih =>
    have ih := ih (before ++ [e])
    rw [List.append_assoc, List.singleton_append, List.length_append, List.length_singleton] at ih
    rw [placesFrom, List.filter_cons]
    split
    · cases i with
      | zero => simp
      | succ i => simpa using ih i
    · exact ih i

theorem entryAt?_eq (c : Catalog) (o : Order) (i : Nat) : c.entryAt? o i = (c.visits o)[i]? :=
  getElem?_placesFrom o [] c.entries i

end Catalog

/-! ## Single moves -/

namespace Cursor

variable {c : Catalog}

theorem length_eq (k : Cursor c) : k.length = (c.visits k.order).length :=
  c.length_places k.order

theorem advance_of_lt {k : Cursor c} (h : k.next < (c.visits k.order).length) :
    k.advance = ⟨k.order, k.next + 1, (c.visits k.order)[k.next]?⟩ := by
  rw [advance, Catalog.entryAt?_eq, List.getElem?_eq_getElem h]

theorem advance_of_le {k : Cursor c} (h : (c.visits k.order).length ≤ k.next) :
    k.advance = ⟨k.order, (c.visits k.order).length, none⟩ := by
  rw [advance, Catalog.entryAt?_eq, List.getElem?_eq_none h, length_eq]

theorem skip_succ_of_lt {k : Cursor c} (h : k.next < (c.visits k.order).length) (n : Nat) :
    k.skip (n + 1) = k.advance.skip n := by
  have hbound : k.advance.current.isSome = true := by
    rw [advance_of_lt h, List.getElem?_eq_getElem h]
    rfl
  rw [skip, if_pos hbound]

theorem skip_of_lt {n : Nat} {k : Cursor c} (h : k.next + n < (c.visits k.order).length) :
    k.skip n = ⟨k.order, k.next + n + 1, (c.visits k.order)[k.next + n]?⟩ := by
  induction n generalizing k with
  | zero => exact advance_of_lt h
  | succ n ih =>
    have hnext : k.next < (c.visits k.order).length := by omega
    rw [skip_succ_of_lt hnext, advance_of_lt hnext, ih (by simp only; omega)]
    simp only [Nat.add_right_comm _ 1 n, Nat.add_assoc]

theorem skip_of_le {n : Nat} {k : Cursor c} (h : (c.visits k.order).length ≤ k.next + n) :
    k.skip n = ⟨k.order, (c.visits k.order).length, none⟩ := by
  induction n generalizing k with
  | zero => exact advance_of_le h
  | succ n ih =>
    rcases Nat.lt_or_ge k.next (c.visits k.order).length with hnext | hpast
    · rw [skip_succ_of_lt hnext, advance_of_lt hnext, ih (by simp only; omega)]
    · rw [skip, advance_of_le hpast, if_neg (by simp)]

/-! ## A walk to the end -/

/-- The statements that are met, one for each advance while there are any. -/
theorem drain_fst (n : Nat) (k : Cursor c) :
    (k.drain n).1 = (((c.visits k.order).drop k.next).take n).map (·.2) := by
  induction n generalizing k with
  | zero => rfl
  | succ n ih =>
    rcases Nat.lt_or_ge k.next (c.visits k.order).length with hnext | hpast
    · rw [drain, advance_of_lt hnext, List.drop_eq_getElem_cons hnext, List.take_succ_cons,
        List.map_cons, List.getElem?_eq_getElem hnext]
      exact congrArg _ (ih _)
    · rw [drain, advance_of_le hpast, List.drop_eq_nil_of_le hpast, List.take_nil]
      rfl

/-- One advance more than there are statements ends behind the last. -/
theorem drain_snd {n : Nat} {k : Cursor c} (h : (c.visits k.order).length - k.next < n) :
    (k.drain n).2 = ⟨k.order, (c.visits k.order).length, none⟩ := by
  induction n generalizing k with
  | zero => exact absurd h (Nat.not_lt_zero _)
  | succ n ih =>
    rcases Nat.lt_or_ge k.next (c.visits k.order).length with hnext | hpast
    · rw [drain, advance_of_lt hnext, List.getElem?_eq_getElem hnext]
      exact ih (by simp only; omega)
    · rw [drain, advance_of_le hpast]
      rfl

theorem rest_eq (k : Cursor c) :
    k.rest = (((c.visits k.order).drop k.next).map (·.2),
      ⟨k.order, (c.visits k.order).length, none⟩) := by
  have hremaining : k.remaining = ((c.visits k.order).drop k.next).length := by
    rw [remaining, length_eq, List.length_drop]
  refine Prod.ext ?_ (drain_snd ?_)
  · rw [rest, drain_fst, hremaining, List.take_of_length_le (Nat.le_succ _)]
  · rw [hremaining, List.length_drop]
    exact Nat.lt_succ_self _

end Cursor

namespace Catalog

theorem walk_eq (c : Catalog) (o : Order) :
    c.walk o = c.statements.filter fun s => o.admits s.kind := by
  rw [walk, Cursor.rest_eq, statements, List.filter_map]
  rfl

/-! ## Ordinals -/

/-- The ordinal of a statement is the place of its entry. -/
theorem Orderly.ordinal_eq {c : Catalog} (hc : c.Orderly) {i : Nat} {e : Text × Statement}
    (h : c.entries[i]? = some e) : e.2.ordinal = i := by
  have hi : (c.statements.map (·.ordinal))[i]? = some e.2.ordinal := by
    rw [statements, List.map_map, List.getElem?_map, h]
    rfl
  rw [hc.ordinals] at hi
  obtain ⟨hsize, hget⟩ := List.getElem?_eq_some_iff.1 hi
  rw [← hget, List.getElem_range]

theorem Orderly.getElem?_entries {c : Catalog} (hc : c.Orderly) {e : Text × Statement}
    (h : e ∈ c.entries) : c.entries[e.2.ordinal]? = some e := by
  obtain ⟨i, hi⟩ := List.getElem?_of_mem h
  rwa [hc.ordinal_eq hi]

theorem Orderly.getElem?_statements {c : Catalog} (hc : c.Orderly) {s : Statement}
    (h : s ∈ c.statements) : c.statements[s.ordinal]? = some s := by
  obtain ⟨e, he, rfl⟩ := List.mem_map.1 h
  rw [statements, List.getElem?_map, hc.getElem?_entries he, Option.map_some]

theorem Orderly.pairwise_ordinal {c : Catalog} (hc : c.Orderly) :
    c.statements.Pairwise fun s t => s.ordinal < t.ordinal := by
  rw [← List.pairwise_map, hc.ordinals]
  exact List.pairwise_lt_range

/-- Where the ordinals count the entries, those of an order are its places. -/
theorem map_ordinal_filter (o : Order) {i : Nat} {es : List (Text × Statement)}
    (h : es.map (·.2.ordinal) = List.range' i es.length) :
    (es.filter fun e => o.admits e.2.kind).map (·.2.ordinal) = placesFrom o i es := by
  induction es generalizing i with
  | nil => rfl
  | cons e es ih =>
    rw [List.map_cons, List.length_cons, List.range'_succ] at h
    obtain ⟨hfirst, hrest⟩ := List.cons_eq_cons.1 h
    rw [placesFrom, List.filter_cons, ← ih hrest, ← hfirst]
    split <;> rfl

theorem Orderly.map_ordinal_walk {c : Catalog} (hc : c.Orderly) (o : Order) :
    (c.walk o).map (·.ordinal) = c.places o := by
  have hordinals : c.entries.map (·.2.ordinal) = List.range' 0 c.entries.length := by
    have hall := hc.ordinals
    rw [statements, List.map_map, size, List.range_eq_range'] at hall
    exact hall
  rw [walk, Cursor.rest_eq, List.map_map]
  exact map_ordinal_filter o hordinals

end Catalog

/-! ## Merging by ordinals -/

namespace Statement

theorem merge_cons_left {s : Statement} {ts : List Statement}
    (h : ∀ t ∈ ts, s.ordinal < t.ordinal) (ss : List Statement) :
    (s :: ss).merge ts notAfter = s :: ss.merge ts notAfter := by
  cases ts with
  | nil => rw [List.merge_right, List.merge_right]
  | cons t ts =>
    have hle : s.notAfter t = true := decide_eq_true (Nat.le_of_lt (h t List.mem_cons_self))
    rw [List.cons_merge_cons_pos notAfter _ _ hle]

theorem merge_cons_right {t : Statement} {ss : List Statement}
    (h : ∀ s ∈ ss, t.ordinal < s.ordinal) (ts : List Statement) :
    ss.merge (t :: ts) notAfter = t :: ss.merge ts notAfter := by
  cases ss with
  | nil => rw [List.nil_merge, List.nil_merge]
  | cons s ss =>
    have hgt : ¬ s.notAfter t = true := by
      have hlt := h s List.mem_cons_self
      unfold notAfter
      rw [decide_eq_true_iff]
      omega
    rw [List.cons_merge_cons_neg notAfter _ _ hgt]

/-- Two parts of a list that share nothing, merged by the ordinals that increase along it. -/
theorem merge_filter {p q : Statement → Bool} {ss : List Statement}
    (hpq : ∀ s, p s = true → q s = false)
    (h : ss.Pairwise fun s t => s.ordinal < t.ordinal) :
    (ss.filter p).merge (ss.filter q) notAfter = ss.filter fun s => p s || q s := by
  induction ss with
  | nil => exact List.merge_right []
  | cons s ss ih =>
    obtain ⟨hs, hss⟩ := List.pairwise_cons.1 h
    have ih := ih hss
    cases hp : p s with
    | true =>
      have hrest : ∀ t ∈ ss.filter q, s.ordinal < t.ordinal :=
        fun t ht => hs t (List.mem_filter.1 ht).1
      simp only [List.filter_cons, hp, hpq s hp, Bool.true_or, if_true, Bool.false_eq_true,
        if_false]
      rw [merge_cons_left hrest, ih]
    | false =>
      cases hq : q s with
      | true =>
        have hrest : ∀ t ∈ ss.filter p, s.ordinal < t.ordinal :=
          fun t ht => hs t (List.mem_filter.1 ht).1
        simp only [List.filter_cons, hp, hq, Bool.or_true, if_true, Bool.false_eq_true, if_false]
        rw [merge_cons_right hrest, ih]
      | false =>
        simp only [List.filter_cons, hp, hq, Bool.or_false, Bool.false_eq_true, if_false]
        exact ih

end Statement

/-! ## The laws -/

/-- The walks over the statements of a script. The walk in the order of the file meets them
all. The other two share out those of known kind, and merged by the ordinals they come back in
the order of the file. A walk goes through the places of its order to the end, and each place
leads to the statement that has it as its ordinal. -/
theorem the_orders_share_out_the_statements {lines : List Text} {c : Catalog}
    (h : Script.parseLines lines = .ok c) :
    (c.walk .file = c.statements ∧ c.statements.map (·.ordinal) = List.range c.size) ∧
    c.walk .sequential = c.statements.filter (fun s => s.kind == .dml || s.kind == .ddl) ∧
    c.walk .concurrent = c.statements.filter (fun s => s.kind == .dql) ∧
    (∀ s ∈ c.walk .sequential, s ∉ c.walk .concurrent) ∧
    (c.walk .sequential).merge (c.walk .concurrent) Statement.notAfter =
      (c.walk .file).filter (fun s => s.kind != .unknown) ∧
    ∀ o, ((c.walk o).map (·.ordinal)).Pairwise (· < ·) ∧
      (Cursor.start c o).rest.2 = ⟨o, (c.places o).length, none⟩ ∧
      (c.walk o).map (·.ordinal) = c.places o ∧
      ∀ i ∈ c.places o, ∃ s, c.statements[i]? = some s ∧ s.ordinal = i := by
  have hc := Script.orderly_of_parseLines h
  have hfile : c.walk .file = c.statements := by
    rw [c.walk_eq]
    exact List.filter_eq_self.2 fun _ _ => rfl
  have hapart : ∀ s : Statement, Order.sequential.admits s.kind = true →
      Order.concurrent.admits s.kind = false := by
    intro s hs
    cases hk : s.kind <;> simp [hk, Order.admits] at hs ⊢
  refine ⟨⟨hfile, hc.ordinals⟩, c.walk_eq .sequential, c.walk_eq .concurrent, ?_, ?_,
    fun o => ⟨?_, ?_, hc.map_ordinal_walk o, ?_⟩⟩
  · intro s hs ht
    rw [c.walk_eq, List.mem_filter] at hs ht
    rw [hapart s hs.2] at ht
    exact Bool.false_ne_true ht.2
  · rw [c.walk_eq, c.walk_eq, Statement.merge_filter hapart hc.pairwise_ordinal, hfile]
    refine List.filter_congr fun s _ => ?_
    cases s.kind <;> rfl
  · rw [List.pairwise_map, c.walk_eq]
    exact hc.pairwise_ordinal.filter _
  · rw [Cursor.rest_eq, c.length_places]
    rfl
  · intro i hi
    rw [← hc.map_ordinal_walk, List.mem_map] at hi
    obtain ⟨s, hs, rfl⟩ := hi
    rw [c.walk_eq] at hs
    exact ⟨s, hc.getElem?_statements (List.mem_filter.1 hs).1, rfl⟩

/-- A script with a statement of each kind, and with one between them that is given up. -/
theorem a_statement_of_each_kind_is_walked :
    let lines := ["-- tag=name: A".toList, "update t set x = 1;".toList, "-- tag=name: B".toList,
      "select".toList, "-- tag=name: C".toList, "grant x to yyy;".toList, "-- tag=name: D".toList,
      "select 1 from t;".toList, "-- tag=name: E".toList, "drop table t;".toList]
    let statement (name : Char) (text : String) (kind : Kind) (ordinal : Nat) : Statement :=
      ⟨text.toList, kind, Tags.single Line.nameKey [name], ordinal⟩
    let a := statement 'A' "update t set x = 1" .dml 0
    let c := statement 'C' "grant x to yyy" .unknown 1
    let d := statement 'D' "select 1 from t" .dql 2
    let e := statement 'E' "drop table t" .ddl 3
    let catalog : Catalog := ⟨[(['a'], a), (['c'], c), (['d'], d), (['e'], e)]⟩
    Script.parseLines lines = .ok catalog ∧ catalog.walk .file = [a, c, d, e] ∧
      catalog.walk .sequential = [a, e] ∧ catalog.walk .concurrent = [d] ∧
      [a, e].merge [d] Statement.notAfter = [a, d, e] := by
  intro lines statement a c d e catalog
  have hparse : Script.parseLines lines = .ok catalog := by decide +kernel
  obtain ⟨⟨hfile, -⟩, hsequential, hconcurrent, -, hmerge, -⟩ :=
    the_orders_share_out_the_statements hparse
  have hchange : catalog.walk .sequential = [a, e] := hsequential
  have hread : catalog.walk .concurrent = [d] := hconcurrent
  rw [hchange, hread, hfile] at hmerge
  exact ⟨hparse, hfile, hchange, hread, hmerge⟩

end NamedSql
