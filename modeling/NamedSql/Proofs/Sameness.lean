-- Comparing the statements of two scripts. Entries are compared key by key and in no order,
-- but the ordinals bring the order back. So equal collections agree place by place, and
-- nothing that can be asked tells them apart.
import NamedSql.Desk
import NamedSql.Proofs.Walks

namespace NamedSql

/-! ## The pure model -/

/-- Two statements show the same text, kind and ordinal, and the same value for every tag. -/
structure Statement.Agrees (s t : Statement) : Prop where
  text : s.text = t.text
  kind : s.kind = t.kind
  ordinal : s.ordinal = t.ordinal
  tags : ∀ key, s.tags.get? key = t.tags.get? key

/-- What a cursor shows, whatever catalog it walks. -/
def Cursor.shows {c : Catalog} (k : Cursor c) : Order × Nat × Option (Text × Statement) :=
  (k.order, k.next, k.current)

/-- All that is seen on a desk while it is asked, from an empty desk on. -/
def Desk.seen (c : Catalog) (requests : List Request) :
    List (Answer × Option (Order × Nat × Option (Text × Statement))) :=
  (Desk.run ([] : Desk c) requests).map fun p => (p.1, p.2.map Cursor.shows)

/-! ## Agreeing place by place -/

theorem Statement.Agrees.eq {s t : Statement} (h : s.Agrees t) : s = t := by
  obtain ⟨text, kind, tags, ordinal⟩ := s
  obtain ⟨htext, hkind, hordinal, htags⟩ := h
  obtain rfl := Tags.ext_get? htags
  subst htext hkind hordinal
  rfl

namespace Catalog

theorem length_names (c : Catalog) : c.names.length = c.statements.length := by
  rw [names, statements, List.length_map, List.length_map]

theorem eq_of_agrees {a b : Catalog} (hnames : a.names = b.names)
    (h : ∀ (i : Nat) s t, a.statements[i]? = some s → b.statements[i]? = some t → s.Agrees t) :
    a = b := by
  have hlength : a.statements.length = b.statements.length := by
    rw [← length_names, ← length_names, hnames]
  have hstatements : a.statements = b.statements := by
    refine List.ext_getElem hlength fun i ha hb => ?_
    exact (h i _ _ (List.getElem?_eq_getElem ha) (List.getElem?_eq_getElem hb)).eq
  have hentries : a.entries = b.entries := by
    rw [List.zip_of_prod hnames hstatements]
    exact (List.zip_of_prod rfl rfl).symm
  exact congrArg mk hentries

/-! ## Comparing key by key -/

/-- The entry of a key stands at the same place in both, as its ordinal is the same. -/
theorem Orderly.eq_of_same {a b : Catalog} (ha : a.Orderly) (hb : b.Orderly)
    (h : a.same b = true) : a = b := by
  simp only [same, Bool.and_eq_true, beq_iff_eq, List.all_eq_true] at h
  obtain ⟨⟨⟨hsize, hfind⟩, -⟩, -⟩ := h
  have hplaces : ∀ i : Nat, ∀ e, a.entries[i]? = some e → b.entries[i]? = some e := by
    intro i e he
    have hmem := mem_of_find? (hfind e (List.mem_of_getElem? he))
    rw [← ha.ordinal_eq he]
    exact hb.getElem?_entries hmem
  refine congrArg Catalog.mk (List.ext_getElem hsize fun i hi hj => ?_)
  have hi := hplaces i _ (List.getElem?_eq_getElem hi)
  rw [List.getElem?_eq_getElem hj] at hi
  exact (Option.some.inj hi).symm

end Catalog

/-! ## The laws -/

/-- The statements of two scripts compare as equal if and only if they agree place by place.
Then every lookup tells the same, every statement is described in the same words, and all
that cursors show and answer is the same in the same order. -/
theorem equal_collections_cannot_be_told_apart {first second : List Text} {a b : Catalog}
    (hfirst : Script.parseLines first = .ok a) (hsecond : Script.parseLines second = .ok b) :
    (a.same b = true ↔ a.names = b.names ∧
      ∀ (i : Nat) s t, a.statements[i]? = some s → b.statements[i]? = some t → s.Agrees t) ∧
    (a.same b = true →
      (∀ name, a.get? name = b.get? name ∧ a.text? name = b.text? name ∧
        a.kind name = b.kind name ∧ ∀ tag, a.tag? name tag = b.tag? name tag) ∧
      a.statements.map Statement.description = b.statements.map Statement.description ∧
      (∀ o, a.walk o = b.walk o) ∧
      ∀ requests, Desk.seen a requests = Desk.seen b requests) := by
  have ha := Script.orderly_of_parseLines hfirst
  have hb := Script.orderly_of_parseLines hsecond
  refine ⟨⟨fun h => ?_, fun ⟨hnames, hagree⟩ => ?_⟩, fun h => ?_⟩
  · obtain rfl := ha.eq_of_same hb h
    refine ⟨rfl, fun i s t hs ht => ?_⟩
    obtain rfl := Option.some.inj (hs.symm.trans ht)
    exact ⟨rfl, rfl, rfl, fun _ => rfl⟩
  · obtain rfl := Catalog.eq_of_agrees hnames hagree
    exact Catalog.same_self ha.nodup
  · obtain rfl := ha.eq_of_same hb h
    exact ⟨fun _ => ⟨rfl, rfl, rfl, fun _ => rfl⟩, rfl, fun _ => rfl, fun _ => rfl⟩

/-- The tags of a statement in another order, one of them written over, make no difference. The
statements of a script in another order do. -/
theorem the_order_of_tags_does_not_tell :
    let first := ["-- tag=name: A".toList, "-- tag=x: 1".toList, "-- tag=y: 2".toList,
      "select 1 from t;".toList, "-- tag=name: B".toList, ";".toList]
    let second := ["-- tag=name: A".toList, "-- tag=Y: 2".toList, "-- tag=x: 0".toList,
      "select 1".toList, "-- tag=X: 1".toList, "from t; -- end".toList, "-- tag=name: B".toList,
      ";".toList]
    let third := second.drop 6 ++ second.take 6
    let a : Statement := ⟨"select 1 from t".toList, .dql,
      ((Tags.single Line.nameKey ['A']).insert ['x'] ['1']).insert ['y'] ['2'], 0⟩
    let b : Statement := ⟨[], .unknown, Tags.single Line.nameKey ['B'], 1⟩
    let c : Catalog := ⟨[(['a'], a), (['b'], b)]⟩
    let swapped : Catalog := ⟨[(['b'], { b with ordinal := 0 }), (['a'], { a with ordinal := 1 })]⟩
    Script.parseLines first = .ok c ∧ Script.parseLines second = .ok c ∧
      Script.parseLines third = .ok swapped ∧ c.same c = true ∧ c.walk .concurrent = [a] ∧
      c.same swapped = false := by
  intro first second third a b c swapped
  have hfirst : Script.parseLines first = .ok c := by decide +kernel
  have hsecond : Script.parseLines second = .ok c := by decide +kernel
  have hthird : Script.parseLines third = .ok swapped := by decide +kernel
  obtain ⟨hsame, htold⟩ := equal_collections_cannot_be_told_apart hfirst hsecond
  obtain ⟨hswapped, -⟩ := equal_collections_cannot_be_told_apart hfirst hthird
  have hequal : c.same c = true := hsame.2 ⟨rfl, fun i s t hs ht => by
    obtain rfl := Option.some.inj (hs.symm.trans ht)
    exact ⟨rfl, rfl, rfl, fun _ => rfl⟩⟩
  have hnames : c.names ≠ swapped.names := by decide
  refine ⟨hfirst, hsecond, hthird, hequal, (htold hequal).2.2.1 .concurrent, ?_⟩
  rw [Bool.eq_false_iff]
  exact fun h => hnames (hswapped.1 h).1

end NamedSql
