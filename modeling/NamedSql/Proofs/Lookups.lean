-- Looking up by name. A name leads to the one statement whose key is the name in lower
-- case, a cursor shows there what the lookup tells, and a name tag is refused if its
-- value leads to a statement.
import NamedSql.Proofs.LowerCase
import NamedSql.Proofs.Walks

namespace NamedSql

/-! ## Keys and places -/

namespace Catalog

theorem mem_entries_iff {c : Catalog} {key : Text} {s : Statement} :
    (key, s) ∈ c.entries ↔ ∃ i : Nat, c.names[i]? = some key ∧ c.statements[i]? = some s := by
  simp only [names, statements, List.mem_iff_getElem?, List.getElem?_map]
  constructor
  · rintro ⟨i, hi⟩
    exact ⟨i, by rw [hi]; exact ⟨rfl, rfl⟩⟩
  · rintro ⟨i, hkey, hs⟩
    obtain ⟨e, he, rfl⟩ := Option.map_eq_some_iff.1 hkey
    rw [he] at hs
    exact ⟨i, he.trans (congrArg some (Prod.ext rfl (Option.some.inj hs)))⟩

namespace Orderly

variable {c : Catalog} (hc : c.Orderly)

include hc

theorem find?_eq_some_iff {key : Text} {s : Statement} :
    c.find? key = some s ↔ (key, s) ∈ c.entries :=
  ⟨mem_of_find?, find?_of_mem hc.nodup⟩

theorem getElem?_names {key : Text} {s : Statement} (h : c.find? key = some s) :
    c.names[s.ordinal]? = some key := by
  rw [Catalog.names, List.getElem?_map, hc.getElem?_entries (mem_of_find? h), Option.map_some]

theorem place_eq {key : Text} {s : Statement} {i : Nat} (h : c.find? key = some s)
    (hi : c.names[i]? = some key) : i = s.ordinal := by
  rw [Catalog.names, List.getElem?_map] at hi
  obtain ⟨e, he, rfl⟩ := Option.map_eq_some_iff.1 hi
  rw [find?_of_mem hc.nodup (List.mem_of_getElem? he)] at h
  obtain rfl := Option.some.inj h
  exact (hc.ordinal_eq he).symm

theorem lower_name {key : Text} {s : Statement} (h : (key, s) ∈ c.entries) :
    Text.lower s.name = key := by
  obtain ⟨value, hvalue, hlower⟩ := (hc.names _ h).named
  rwa [Statement.name, hvalue]

theorem lower_key {key : Text} {s : Statement} (h : (key, s) ∈ c.entries) :
    Text.lower key = key := by
  rw [← hc.lower_name h, Text.lower_lower]

/-- The cursor that goes to the place of a statement binds it with its key. -/
theorem skip_current {key : Text} {s : Statement} (h : (key, s) ∈ c.entries) :
    ((Cursor.start c .file).skip s.ordinal).current = some (key, s) := by
  have hall : c.visits .file = c.entries := List.filter_eq_self.2 fun _ _ => rfl
  have hentry : (c.visits .file)[s.ordinal]? = some (key, s) := hall ▸ hc.getElem?_entries h
  obtain ⟨hlt, -⟩ := List.getElem?_eq_some_iff.1 hentry
  have hskip := Cursor.skip_of_lt (k := Cursor.start c .file) (n := s.ordinal)
    (by rw [Cursor.start, Nat.zero_add]; exact hlt)
  rw [hskip]
  simpa [Cursor.start] using hentry

end Orderly

end Catalog

/-! ## Name tags -/

/-- A name tag is refused if and only if its value is looked up with success. -/
theorem Assembly.feed_name {a : Assembly} {raw value : Text} {e : ParseError}
    (h : Line.classify raw = .name value) :
    (a.feed raw).1 = .error e ↔
      (a.catalog.get? value).isSome = true ∧ e = .duplicateName (Text.lower value) := by
  have htaken : a.done.contains (Text.lower value) = (a.catalog.get? value).isSome := rfl
  cases hfree : (a.catalog.get? value).isSome with
  | true =>
    have htake : a.take raw = .error (.duplicateName (Text.lower value)) := by
      rw [take, h]
      exact begin_taken (htaken.trans hfree)
    rw [feed_error htake]
    simp [eq_comm]
  | false =>
    have htake : a.take raw = .ok ⟨a.done, some (Draft.start value)⟩ := by
      rw [take, h]
      exact begin_free (htaken.trans hfree)
    rw [feed_ok htake]
    simp

/-! ## The laws -/

/-- Wherever lines have led, a name leads to the one statement whose key is the name in lower
case, and the place of the key is the ordinal of the statement. So the name as spelled and the
key lead there. The lookup tells the text, the kind and the tags of the statement, and the cursor
that goes there shows the same. A name tag is refused if its value leads to a statement, and the
error names the key. -/
theorem a_name_leads_to_the_statement_of_its_key (lines : List Text) :
    let a := lines.foldl Assembly.tryTake Assembly.start
    let c := a.catalog
    (∀ parsed, Script.parseLines lines = .ok parsed → parsed = c) ∧
    (∀ name s, c.get? name = some s ↔
      ∃ i : Nat, c.names[i]? = some (Text.lower name) ∧ c.statements[i]? = some s) ∧
    (∀ name s, c.get? name = some s →
      ∀ i : Nat, c.names[i]? = some (Text.lower name) → i = s.ordinal) ∧
    (∀ (i : Nat) key s, c.names[i]? = some key → c.statements[i]? = some s →
      c.get? s.name = some s ∧ c.get? key = some s) ∧
    (∀ name s, c.get? name = some s →
      c.text? name = some s.text ∧ c.kind name = s.kind ∧
        ∀ tag, c.tag? name tag = s.tags.get? (Tag.lowerKey tag)) ∧
    (∀ name s, c.get? name = some s →
      let k := (Cursor.start c .file).skip s.ordinal
      k.statement? = some s ∧ k.name? = some (Text.lower name) ∧ c.text? name = k.text? ∧
        c.kind name = k.kind ∧
        ∀ tag other, Tag.lowerKey tag = Tag.lowerKey other → c.tag? name tag = k.tag? other) ∧
    ∀ raw value e, Line.classify raw = .name value →
      ((a.feed raw).1 = .error e ↔ ∃ s key, c.get? value = some s ∧
        c.names[s.ordinal]? = some key ∧ e = .duplicateName key) := by
  intro a c
  have hc : c.Orderly := (Assembly.orderly_start.foldl lines).done
  refine ⟨fun parsed h => (Script.catalog_of_parseLines h).symm, fun name s => ?_,
    fun name s h i hi => hc.place_eq h hi, fun i key s hi hs => ?_, fun name s h => ?_,
    fun name s h => ?_, fun raw value e hraw => ?_⟩
  · exact hc.find?_eq_some_iff.trans Catalog.mem_entries_iff
  · have hmem := Catalog.mem_entries_iff.2 ⟨i, hi, hs⟩
    constructor
    · rw [Catalog.get?, hc.lower_name hmem, hc.find?_eq_some_iff]
      exact hmem
    · rw [Catalog.get?, hc.lower_key hmem, hc.find?_eq_some_iff]
      exact hmem
  · refine ⟨?_, ?_, fun tag => ?_⟩
    · rw [Catalog.text?, h, Option.map_some]
    · rw [Catalog.kind, h, Option.map_some, Option.getD_some]
    · rw [Catalog.tag?, h, Option.bind_some, Statement.tag?, Tags.find?]
  · have hcurrent := hc.skip_current (Catalog.mem_of_find? h)
    have hs : ((Cursor.start c .file).skip s.ordinal).statement? = some s := by
      rw [Cursor.statement?, hcurrent, Option.map_some]
    refine ⟨hs, ?_, ?_, ?_, fun tag other htag => ?_⟩
    · rw [Cursor.name?, hcurrent, Option.map_some]
    · rw [Catalog.text?, h, Cursor.text?, hs]
    · rw [Catalog.kind, h, Cursor.kind, hs]
    · rw [Catalog.tag?, h, Cursor.tag?, hs, Option.bind_some, Option.bind_some, Statement.tag?,
        Statement.tag?, Tags.find?, Tags.find?, htag]
  · rw [Assembly.feed_name hraw]
    constructor
    · rintro ⟨hsome, rfl⟩
      obtain ⟨s, hs⟩ := Option.isSome_iff_exists.1 hsome
      exact ⟨s, _, hs, hc.getElem?_names hs, rfl⟩
    · rintro ⟨s, key, hs, hkey, rfl⟩
      rw [hc.getElem?_names hs] at hkey
      exact ⟨hs ▸ rfl, congrArg _ (Option.some.inj hkey).symm⟩

/-- A name that ends in a sigma. It is found in any case, and it is taken in any case. -/
theorem a_sigma_that_ends_a_name_is_found :
    let lines := ["-- tag=name: İ".toList, "select 1 from t;".toList, "-- tag=name: ΟΔΟΣ".toList,
      "-- tag=Key: v".toList, "update t set x = 1;".toList]
    let a := lines.foldl Assembly.tryTake Assembly.start
    let c := a.catalog
    let s : Statement := ⟨"update t set x = 1".toList, .dml,
      (Tags.single Line.nameKey "ΟΔΟΣ".toList).insert "key".toList ['v'], 1⟩
    let k := (Cursor.start c .file).skip s.ordinal
    (∃ parsed, Script.parseLines lines = .ok parsed ∧ parsed = c) ∧
      c.get? "οδοΣ".toList = some s ∧ c.get? s.name = some s ∧ c.get? "οδος".toList = some s ∧
      (∀ i : Nat, c.names[i]? = some (Text.lower "οδοΣ".toList) → i = 1) ∧
      k.statement? = some s ∧ c.tag? "οδοΣ".toList "KEY".toList = some ['v'] ∧
      c.tag? "οδοΣ".toList "KEY".toList = k.tag? "kEY".toList ∧
      (a.feed "--tag=NAME:οδοΣ".toList).1 = .error (.duplicateName "οδος".toList) := by
  intro lines a c s k
  obtain ⟨hparsed, hfound, hplace, hown, hshown, hcursor, htaken⟩ :=
    a_name_leads_to_the_statement_of_its_key lines
  have hparse : Script.parseLines lines = .ok c := by decide +kernel
  have hname : c.names[1]? = some "οδος".toList := by decide +kernel
  have hs : c.statements[1]? = some s := by decide +kernel
  have hlower : c.names[1]? = some (Text.lower "οδοΣ".toList) := by decide +kernel
  have hget : c.get? "οδοΣ".toList = some s := (hfound _ _).2 ⟨1, hlower, hs⟩
  have hraw : Line.classify "--tag=NAME:οδοΣ".toList = .name "οδοΣ".toList := by decide +kernel
  have htag : Tag.lowerKey "KEY".toList = Tag.lowerKey "kEY".toList := by decide +kernel
  refine ⟨⟨c, hparse, hparsed c hparse⟩, hget, (hown 1 _ s hname hs).1, (hown 1 _ s hname hs).2,
    ?_, ?_, ?_, ?_, ?_⟩
  · exact hplace _ s hget
  · exact (hcursor _ s hget).1
  · exact ((hshown _ s hget).2.2 _).trans (by decide +kernel)
  · exact (hcursor _ s hget).2.2.2.2 _ _ htag
  · exact (htaken _ _ _ hraw).2 ⟨s, _, hget, hname, rfl⟩

end NamedSql
