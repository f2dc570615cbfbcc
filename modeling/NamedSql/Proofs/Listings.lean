-- The listing of a script, read line by line. No part of a statement of a script goes over a
-- line, so every line of the listing is a title, one statement or empty, and each section holds
-- the statements of its order. A script that is refused leaves nothing.
import NamedSql.Listing
import NamedSql.Proofs.Descriptions
import NamedSql.Proofs.EscapedTexts
import NamedSql.Proofs.FirstEvent
import NamedSql.Proofs.Walks

namespace NamedSql

/-! ## The script at a path -/

namespace Script

/-- Reads that are accepted are those of a script. -/
theorem exists_script_of_parseReads {reads : List Read} {c : Catalog}
    (hgood : Read.failure? reads = none) (h : parseReads reads = .ok c) :
    ∃ script, parse script = .ok c := by
  cases hrun : (Read.lines reads).foldlM takeRead Assembly.start with
  | error e =>
    rw [parseReads, hrun] at h
    cases h
  | ok a =>
    obtain ⟨texts, htexts⟩ := exists_texts_of_foldlM hrun
    rw [Read.lines_eq, hgood, Option.map_none, Option.toList_none, List.append_nil] at htexts
    obtain ⟨script, hscript⟩ := Read.decode?_of_linesOf htexts
    refine ⟨script, ?_⟩
    rw [← parseReads_of_encode (Text.eq_encode_of_decode? hscript) hgood, h]

theorem exists_script_of_parseSource {source : Source} {c : Catalog}
    (h : parseSource source = .ok c) : ∃ script, parse script = .ok c := by
  cases source with
  | missing | directory | closed message => cases h
  | content bytes => exact exists_script_of_parseReads rfl h

end Script

/-! ## The lines of a listing -/

namespace Listing

theorem lineFeed_not_mem_title (o : Order) : '\n' ∉ title o := by
  cases o <;> decide

theorem lineFeed_not_mem_line {s : Statement} (hfree : s.Unbroken) : '\n' ∉ line s := by
  unfold line
  simp [Kind.lineFeed_not_mem_label, hfree.name, hfree.text]

theorem lineFeed_not_mem_sectionLines {c : Catalog} (h : ∀ s ∈ c.statements, s.Unbroken)
    (o : Order) : ∀ l ∈ sectionLines c o, '\n' ∉ l := by
  intro l hl
  rcases List.mem_append.1 hl with hl | hl
  · rcases List.mem_cons.1 hl with rfl | hl
    · exact lineFeed_not_mem_title o
    · obtain ⟨s, hs, rfl⟩ := List.mem_map.1 hl
      rw [c.walk_eq] at hs
      exact lineFeed_not_mem_line (h s (List.mem_filter.1 hs).1)
  · rw [List.mem_singleton.1 hl]
    exact List.not_mem_nil

theorem lineFeed_not_mem_lines {c : Catalog} (h : ∀ s ∈ c.statements, s.Unbroken) :
    ∀ l ∈ lines c, '\n' ∉ l := by
  intro l hl
  rw [lines, List.mem_append, List.mem_append] at hl
  rcases hl with (hl | hl) | hl <;> exact lineFeed_not_mem_sectionLines h _ l hl

/-- The lines of a listing come back, and nothing stands behind the last. -/
theorem splitOn_text {c : Catalog} (h : ∀ s ∈ c.statements, s.Unbroken) :
    (text c).splitOn '\n' = lines c ++ [[]] := by
  have hfree : ∀ l ∈ lines c ++ [[]], '\n' ∉ l := by
    intro l hl
    rcases List.mem_append.1 hl with hl | hl
    · exact lineFeed_not_mem_lines h l hl
    · rw [List.mem_singleton.1 hl]
      exact List.not_mem_nil
  have hjoin : text c = List.intercalate ['\n'] (lines c ++ [[]]) := by
    rw [Text.intercalate_concat, List.append_nil]
    rfl
  rw [hjoin, List.splitOn_intercalate '\n' hfree (by simp)]

theorem text_ne_nil (c : Catalog) : text c ≠ [] := by
  simp [text, lines, sectionLines]

end Listing

/-! ## How often a statement is shown -/

theorem Catalog.count_walk {c : Catalog} (o : Order) (s : Statement) :
    (c.walk o).count s = if o.admits s.kind then c.statements.count s else 0 := by
  rw [c.walk_eq]
  split
  · rename_i hs
    exact List.count_filter hs
  · rename_i hs
    exact List.count_eq_zero.2 fun hmem => hs (List.mem_filter.1 hmem).2

/-- The section of the whole script shows every statement, and one of the two others shows those
of known kind once more. -/
theorem Catalog.Orderly.count_walks {c : Catalog} (hc : c.Orderly) {s : Statement}
    (hs : s ∈ c.statements) :
    (c.walk .file ++ c.walk .sequential ++ c.walk .concurrent).count s =
      if s.kind = .unknown then 1 else 2 := by
  have hnodup : c.statements.Nodup := by
    refine hc.pairwise_ordinal.imp ?_
    intro s t hlt
    exact ne_of_apply_ne Statement.ordinal (Nat.ne_of_lt hlt)
  rw [List.count_append, List.count_append, c.count_walk, c.count_walk, c.count_walk,
    List.count_eq_one_of_mem hnodup hs]
  cases s.kind <;> rfl

/-! ## The laws -/

/-- The listing of a script, cut at its line feeds, is three sections. Each is a title, the lines
of all statements in the order of the script, of those that change data or tables, or of those
that only read data, and an empty line. So a statement of known kind is shown twice and any other
one once. Nothing is listed if and only if the script is refused. -/
theorem a_listing_shows_the_statements_line_by_line :
    (∀ (source : Source) (c : Catalog), Script.parseSource source = .ok c →
      let line := fun s : Statement =>
        "  [".toList ++ s.kind.label ++ "] ".toList ++ s.name ++ ": ".toList ++ s.text
      let changing := c.statements.filter fun s => s.kind == .dml || s.kind == .ddl
      let reading := c.statements.filter fun s => s.kind == .dql
      (Listing.run source).output.splitOn '\n' =
        ("all the statements, in the same order as in the script:".toList ::
          c.statements.map line ++ [[]]) ++
        ("statements to run sequentially, preserving script order:".toList ::
          changing.map line ++ [[]]) ++
        ("statements that may run concurrently:".toList :: reading.map line ++ [[]]) ++ [[]] ∧
      c.statements.map (·.ordinal) = List.range c.size ∧
      ∀ s ∈ c.statements, (c.statements ++ changing ++ reading).count s =
        if s.kind = .unknown then 1 else 2) ∧
    ∀ source : Source, (Listing.run source).output = [] ↔
      ∃ e, Script.parseSource source = .error e := by
  constructor
  · intro source c h line changing reading
    obtain ⟨script, hscript⟩ := Script.exists_script_of_parseSource h
    have hfree := fun s hs => (Script.sound_statements hscript s hs).2
    have hc := Script.orderly_of_parseLines hscript
    have hall : c.walk .file = c.statements :=
      (c.walk_eq .file).trans (List.filter_eq_self.2 fun _ _ => rfl)
    have hchanging : c.walk .sequential = changing := c.walk_eq .sequential
    have hreading : c.walk .concurrent = reading := c.walk_eq .concurrent
    refine ⟨?_, hc.ordinals, ?_⟩
    · have houtput : (Listing.run source).output = Listing.text c := by rw [Listing.run, h]
      rw [houtput, Listing.splitOn_text hfree]
      simp only [Listing.lines, Listing.sectionLines, hall, hchanging, hreading]
      rfl
    · intro s hs
      rw [← hall, ← hchanging, ← hreading]
      exact hc.count_walks hs
  · intro source
    cases h : Script.parseSource source with
    | ok c => simp [Listing.run, h, Listing.text_ne_nil]
    | error e => simp [Listing.run, h]

/-- A statement of each kind, one of them in two lines and one with a name that looks like the
start of a text. With one more tag that takes a name again nothing is listed. -/
theorem a_statement_of_each_kind_is_listed :
    let script := ("-- tag=name: A\nupdate t\r\n set x = 1;\n-- tag=name: B: x\ngrant x to y;\n" ++
      "-- tag=name: C\nselect 1\rfrom t;\n-- tag=name: D\ndrop table t;").toList
    let statement (name text : String) (kind : Kind) (ordinal : Nat) : Statement :=
      ⟨text.toList, kind, Tags.single Line.nameKey name.toList, ordinal⟩
    let a := statement "A" "update t set x = 1" .dml 0
    let b := statement "B: x" "grant x to y" .unknown 1
    let c := statement "C" "select 1\rfrom t" .dql 2
    let d := statement "D" "drop table t" .ddl 3
    let catalog : Catalog := ⟨[(['a'], a), ("b: x".toList, b), (['c'], c), (['d'], d)]⟩
    let source := Source.content (Text.encode script)
    let refused := Source.content (Text.encode (script ++ "\n-- tag=name: a".toList))
    Script.parseSource source = .ok catalog ∧
      (Listing.run source).output.splitOn '\n' = [
        "all the statements, in the same order as in the script:", "  [DML] A: update t set x = 1",
        "  [UNKNOWN] B: x: grant x to y", "  [DQL] C: select 1\rfrom t", "  [DDL] D: drop table t", "",
        "statements to run sequentially, preserving script order:", "  [DML] A: update t set x = 1",
        "  [DDL] D: drop table t", "", "statements that may run concurrently:",
        "  [DQL] C: select 1\rfrom t", "", ""].map String.toList ∧
      ([a, b, c, d] ++ [a, d] ++ [c]).count c = 2 ∧ ([a, b, c, d] ++ [a, d] ++ [c]).count b = 1 ∧
      Script.parseSource refused = .error (.duplicateName ['a']) ∧
      (Listing.run refused).output = [] := by
  intro script statement a b c d catalog source refused
  have hparse : Script.parseSource source = .ok catalog := by
    have hscript : Script.parse script = .ok catalog := by decide +kernel
    exact (Script.parseReads_of_encode (List.append_nil _) rfl).trans hscript
  have hrefused : Script.parseSource refused = .error (.duplicateName ['a']) := by
    have hscript : Script.parse (script ++ "\n-- tag=name: a".toList) =
        .error (.duplicateName ['a']) := by decide +kernel
    exact (Script.parseReads_of_encode (List.append_nil _) rfl).trans hscript
  obtain ⟨hlisted, hempty⟩ := a_listing_shows_the_statements_line_by_line
  obtain ⟨hlines, -, hcount⟩ := hlisted source catalog hparse
  have hc : c ∈ catalog.statements := by decide +kernel
  have hb : b ∈ catalog.statements := by decide +kernel
  exact ⟨hparse, hlines.trans (by decide +kernel), hcount c hc, hcount b hb, hrefused,
    (hempty refused).2 ⟨_, hrefused⟩⟩

end NamedSql
