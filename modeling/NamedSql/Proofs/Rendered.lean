-- A catalog comes back from the script that it is written as. The lines of every
-- statement make a segment of their own, and that segment has the name, the tags and
-- the text of the statement.
import Mathlib.Data.List.Forall2
import NamedSql.Proofs.LineEnds
import NamedSql.Proofs.NormalLines
import NamedSql.Proofs.Reads
import NamedSql.Proofs.SoundStatements

namespace NamedSql

/-! ## The pure model -/

/-- The segment that writes a statement. -/
def Statement.segment (s : Statement) (others : List (Text × Text)) : Segment :=
  ⟨s.name, others.map (fun e => Line.tag e.1 e.2) ++ [.terminated s.text]⟩

/-! ## The lines of one statement -/

namespace Statement

theorem lineFeed_not_mem_scriptLines {s : Statement} (h : s.Sound) (hfree : s.Unbroken)
    {others : List (Text × Text)} (hperm : others.Perm s.otherTags) :
    ∀ l ∈ s.scriptLines others, '\n' ∉ l := by
  intro l hl
  rcases List.mem_append.1 hl with hl | hl
  · rcases List.mem_cons.1 hl with rfl | hl
    · exact Tag.lineFeed_not_mem_line h.name.key hfree.name
    · obtain ⟨e, he, rfl⟩ := List.mem_map.1 hl
      have he := hperm.mem_iff.1 he
      exact Tag.lineFeed_not_mem_line (h.tags e he).key (hfree.tags e he)
  · rw [List.mem_singleton.1 hl]
    simp [hfree.text]

theorem classify_scriptLines {s : Statement} (h : s.Sound) (hblock : ¬ ['/', '*'] <:+: s.text)
    {others : List (Text × Text)} (hperm : others.Perm s.otherTags) :
    (s.scriptLines others).map Line.classify = (s.segment others).lines := by
  have hname : Line.classify (Tag.line Line.nameKey s.name) = .name s.name :=
    Line.classify_sound h.name
  have hothers : (others.map fun e => Tag.line e.1 e.2).map Line.classify =
      others.map fun e => Line.tag e.1 e.2 := by
    rw [List.map_map]
    apply List.map_congr_left
    intro e he
    have he := hperm.mem_iff.1 he
    have hne : e.1 ≠ Line.nameKey := by simpa using (List.mem_filter.1 he).2
    rw [Function.comp_apply, Line.classify_sound (h.tags e he), Line.ofTag, if_neg hne]
  have htext := Line.classify_ended (h.text hblock)
  unfold scriptLines segment Segment.lines
  rw [List.map_append, List.map_cons, hname, hothers, List.map_singleton, htext]
  rfl

/-! ## The segment of one statement -/

theorem isName_segment (s : Statement) (others : List (Text × Text)) :
    ∀ l ∈ (s.segment others).body, l.isName = false := by
  intro l hl
  rcases List.mem_append.1 hl with hl | hl
  · obtain ⟨e, -, rfl⟩ := List.mem_map.1 hl
    rfl
  · rw [List.mem_singleton.1 hl]
    rfl

theorem isComplete_segment (s : Statement) (others : List (Text × Text)) :
    (s.segment others).isComplete = true := by
  simp [segment, Segment.isComplete, Segment.isTerminator]

theorem counted_segment (s : Statement) (others : List (Text × Text)) :
    (s.segment others).counted = (s.segment others).body := by
  have htags : ∀ l ∈ others.map fun e => Line.tag e.1 e.2, Segment.isTerminator l = false := by
    intro l hl
    obtain ⟨e, -, rfl⟩ := List.mem_map.1 hl
    rfl
  unfold Segment.counted segment
  dsimp only
  rw [List.takeWhile_append_of_pos fun l hl => by simp [htags l hl], List.find?_append,
    List.find?_eq_none.2 fun l hl => by simp [htags l hl]]
  simp [Segment.isTerminator]

theorem text_segment (s : Statement) (others : List (Text × Text)) :
    (s.segment others).text = s.text := by
  have htags : (others.map fun e => Line.tag e.1 e.2).filterMap Segment.codeOf? = [] := by
    rw [List.filterMap_map]
    exact List.filterMap_eq_nil_iff.2 fun e _ => rfl
  unfold Segment.text
  rw [counted_segment, segment, List.filterMap_append, htags, List.nil_append]
  by_cases htext : s.text = []
  · simp [Segment.codeOf?, htext]
  · simp [Segment.codeOf?, htext]

/-- Tags with different keys are all there in the end. -/
theorem get?_foldl_tags {others : List (Text × Text)} (hnodup : (others.map (·.1)).Nodup)
    (tags : Tags) (key value : Text) :
    ((others.map fun e => Line.tag e.1 e.2).foldl Segment.addTag tags).get? key = some value ↔
      (key, value) ∈ others ∨ key ∉ others.map (·.1) ∧ tags.get? key = some value := by
  induction others generalizing tags with
  | nil => simp
  | cons e es ih =>
    obtain ⟨hnew, hnodup⟩ := List.nodup_cons.1 hnodup
    have hinsert : Segment.addTag tags (.tag e.1 e.2) = tags.insert e.1 e.2 := rfl
    rw [List.map_cons, List.foldl_cons, ih hnodup, hinsert, Tags.get?_insert]
    by_cases hkey : e.1 = key
    · subst hkey
      have hnone : (e.1, value) ∉ es := fun hmem => hnew (List.mem_map.2 ⟨_, hmem, rfl⟩)
      have heq : (e.1, value) = e ↔ e.2 = value := by
        rw [Prod.ext_iff]
        simp [eq_comm]
      simp [hnew, hnone, heq]
    · have hne : (key, value) ≠ e := fun heq => hkey (by rw [← heq])
      simp [hkey, hne, Ne.symm hkey]

theorem nodup_otherTags (s : Statement) : (s.otherTags.map (·.1)).Nodup := by
  unfold otherTags List.Nodup
  rw [List.pairwise_map]
  refine (s.tags.sorted.filter _).imp ?_
  intro a b hab heq
  rw [heq] at hab
  exact List.lt_irrefl _ hab

/-- The tags of a statement are its name and the others. -/
theorem tags_segment {s : Statement} (h : s.Sound) {others : List (Text × Text)}
    (hperm : others.Perm s.otherTags) : (s.segment others).tags = s.tags := by
  have hnodup : (others.map (·.1)).Nodup := (hperm.map (·.1)).nodup_iff.2 s.nodup_otherTags
  have hmem : ∀ key value, (key, value) ∈ others ↔
      (key, value) ∈ s.tags.entries ∧ key ≠ Line.nameKey := by
    intro key value
    rw [hperm.mem_iff, otherTags, List.mem_filter]
    simp
  have hend : ∀ tags : Tags, [Line.terminated s.text].foldl Segment.addTag tags = tags :=
    fun _ => rfl
  unfold Segment.tags
  rw [counted_segment, segment, List.foldl_append, hend]
  apply Tags.ext_get?
  intro key
  apply Option.ext
  intro value
  rw [get?_foldl_tags hnodup, Tags.single, Tags.get?_insert, hmem, ← Tags.get?_eq_some_iff]
  by_cases hkey : key = Line.nameKey
  · subst hkey
    have hfree : Line.nameKey ∉ others.map (·.1) := by
      intro hin
      obtain ⟨e, he, hname⟩ := List.mem_map.1 hin
      exact ((hmem e.1 e.2).1 he).2 hname
    simp [hfree, h.named]
  · simp [hkey, Ne.symm hkey, Tags.empty, Tags.get?]

theorem statement_segment {s : Statement} (h : s.Sound) (hkind : Kind.ofText s.text = s.kind)
    {others : List (Text × Text)} (hperm : others.Perm s.otherTags) :
    (s.segment others).statement s.ordinal = s := by
  have hkept : (if s.kind = .ddl then s.text else Colons.escape s.text) = s.text := h.kept
  unfold Segment.statement
  rw [text_segment, hkind, hkept, tags_segment h hperm]

end Statement

/-! ## The segments of a catalog -/

namespace Segment

/-- The segment stands for the statement. -/
structure StandsFor (g : Segment) (s : Statement) : Prop where
  body : ∀ l ∈ g.body, l.isName = false
  complete : g.isComplete = true
  value : g.value = s.name
  statement : g.statement s.ordinal = s

theorem exists_standsFor {gs : List Segment} {ss : List Statement}
    (h : List.Forall₂ StandsFor gs ss) {g : Segment} (hg : g ∈ gs) : ∃ s, StandsFor g s := by
  induction h with
  | nil => exact absurd hg List.not_mem_nil
  | cons hfirst _ ih =>
    rcases List.mem_cons.1 hg with rfl | hg
    · exact ⟨_, hfirst⟩
    · exact ih hg

/-- Lines that write statements fall into a segment for each of them. -/
theorem standsFor_of_writes {ss : List Statement} {lines : List Text} (hw : Writes ss lines)
    (h : ∀ s ∈ ss, s.Sound ∧ ¬ ['/', '*'] <:+: s.text ∧ Kind.ofText s.text = s.kind) :
    ∃ gs : List Segment, List.Forall₂ StandsFor gs ss ∧
      lines.map Line.classify = gs.flatMap Segment.lines := by
  induction hw with
  | nil => exact ⟨[], List.Forall₂.nil, rfl⟩
  | @cons s ss others lines hperm hw ih =>
    obtain ⟨hsound, hblock, hkind⟩ := h s List.mem_cons_self
    obtain ⟨gs, hgs, hlines⟩ := ih fun x hx => h x (List.mem_cons_of_mem _ hx)
    refine ⟨s.segment others :: gs, List.Forall₂.cons ⟨?_, ?_, rfl, ?_⟩ hgs, ?_⟩
    · exact s.isName_segment others
    · exact s.isComplete_segment others
    · exact Statement.statement_segment hsound hkind hperm
    · rw [List.map_append, hlines, Statement.classify_scriptLines hsound hblock hperm,
        List.flatMap_cons]

/-- Segments that stand for the statements of other segments give the same entries. -/
theorem entries_of_standsFor {given gs : List Segment} (n : Nat)
    (hname : ∀ g ∈ given, ∀ i, (g.statement i).name = g.value)
    (h : List.Forall₂ StandsFor gs ((given.zipIdx n).map fun p => p.1.statement p.2)) :
    ((gs.zipIdx n).map fun p => (p.1.key, p.1.statement p.2)) =
      (given.zipIdx n).map fun p => (p.1.key, p.1.statement p.2) := by
  induction given generalizing gs n with
  | nil =>
    cases h
    rfl
  | cons first rest ih =>
    rw [List.zipIdx_cons, List.map_cons] at h
    cases h with
    | @cons g _ gs _ hfirst hrest =>
      have hkey : g.key = first.key := by
        unfold key
        rw [hfirst.value, hname first List.mem_cons_self]
      have hstatement : g.statement n = first.statement n := hfirst.statement
      rw [List.zipIdx_cons, List.zipIdx_cons, List.map_cons, List.map_cons,
        ih (n + 1) (fun x hx => hname x (List.mem_cons_of_mem _ hx)) hrest]
      dsimp only
      rw [hkey, hstatement]

theorem parse_flatMap {gs : List Segment} (hbody : ∀ g ∈ gs, ∀ l ∈ g.body, l.isName = false)
    (hcomplete : ∀ g ∈ gs, g.isComplete = true) (hnodup : (catalog gs).names.Nodup) :
    parse (gs.flatMap lines) = .ok (catalog gs) := by
  rw [names_catalog, List.filter_eq_self.2 hcomplete] at hnodup
  have hfree : firstRepeat? gs = none := @firstTaken?_eq_none [] gs hnodup
  unfold parse ofLines
  rw [cut_flatMap hbody, hfree]

/-- All of the segments count, and they give the catalog of the other segments. -/
theorem catalog_of_standsFor {given gs : List Segment}
    (hname : ∀ g ∈ given, ∀ i, (g.statement i).name = g.value)
    (h : List.Forall₂ StandsFor gs (catalog given).statements) : catalog gs = catalog given := by
  have hcomplete : gs.filter isComplete = gs := by
    apply List.filter_eq_self.2
    intro g hg
    obtain ⟨s, hgs⟩ := exists_standsFor h hg
    exact hgs.complete
  have hstatements : (catalog given).statements =
      ((given.filter isComplete).zipIdx 0).map fun p => p.1.statement p.2 := by
    simp [Catalog.statements, catalog]
  rw [hstatements] at h
  have hentries := entries_of_standsFor 0 (fun x hx => hname x (List.mem_filter.1 hx).1) h
  unfold catalog
  rw [hcomplete]
  exact congrArg Catalog.mk hentries

end Segment

/-! ## The catalog of a script -/

namespace Script

theorem parse_eq_segments (script : Text) :
    parse script = Segment.parse ((Text.lines script).map Line.classify) := by
  unfold parse parseLines
  rw [Assembly.takeAll_eq_steps, Segment.steps_start]

theorem lineFeed_not_mem_lines {script line : Text} (h : line ∈ Text.lines script) :
    '\n' ∉ line := by
  obtain ⟨hended, hlast⟩ := @Text.not_mem_cutAt _ _ '\n' script
  rcases List.mem_append.1 h with h | h
  · obtain ⟨l, hl, rfl⟩ := List.mem_map.1 h
    intro hmem
    apply hended l hl
    unfold Text.dropReturn at hmem
    split at hmem
    · exact List.dropLast_subset _ hmem
    · exact hmem
  · split at h
    · exact absurd h List.not_mem_nil
    · rwa [List.mem_singleton.1 h]

/-- The lines of the segments of a script are sound, and no part of them has a line feed. -/
theorem sound_segments {script : Text} {g : Segment}
    (hg : g ∈ Segment.ofLines ((Text.lines script).map Line.classify)) :
    (∀ l ∈ g.lines, l.Sound) ∧ ∀ l ∈ g.lines, ∀ part, l.part? = some part → '\n' ∉ part := by
  have hmem : ∀ l ∈ g.lines, ∃ raw ∈ Text.lines script, Line.classify raw = l := by
    intro l hl
    apply List.mem_map.1
    rw [← Segment.lines_cut ((Text.lines script).map Line.classify)]
    exact List.mem_append_right _ (List.mem_flatMap.2 ⟨g, hg, hl⟩)
  constructor
  · intro l hl
    obtain ⟨raw, -, rfl⟩ := hmem l hl
    exact Line.sound_classify raw
  · intro l hl part hpart hfeed
    obtain ⟨raw, hraw, rfl⟩ := hmem l hl
    exact lineFeed_not_mem_lines hraw ((Line.part_infix hpart).subset hfeed)

theorem segments_of_parse {script : Text} {c : Catalog} (h : parse script = .ok c) :
    c = Segment.catalog (Segment.ofLines ((Text.lines script).map Line.classify)) ∧
      c.names.Nodup := by
  obtain ⟨hfree, rfl⟩ := segments_of_parseLines h
  have hnil : (Segment.catalog []).names.Nodup := by simp [Segment.names_catalog]
  exact ⟨rfl, @Segment.nodup_names [] _ hfree hnil⟩

theorem exists_segment {gs : List Segment} {s : Statement}
    (h : s ∈ (Segment.catalog gs).statements) : ∃ g ∈ gs, ∃ i, s = g.statement i := by
  obtain ⟨e, he, rfl⟩ := List.mem_map.1 h
  obtain ⟨⟨g, i⟩, hg, rfl⟩ := List.mem_map.1 he
  exact ⟨g, (List.mem_filter.1 (List.fst_mem_of_mem_zipIdx hg)).1, i, rfl⟩

/-- The statements of a script are sound, and no part of them has a line feed. -/
theorem sound_statements {script : Text} {c : Catalog} (h : parse script = .ok c) :
    ∀ s ∈ c.statements, s.Sound ∧ s.Unbroken := by
  intro s hs
  rw [(segments_of_parse h).1] at hs
  obtain ⟨g, hg, i, rfl⟩ := exists_segment hs
  obtain ⟨hlines, hfree⟩ := sound_segments hg
  exact ⟨Segment.sound_statement hlines i, Segment.unbroken_statement hlines i hfree⟩

theorem lineFeed_not_mem_of_writes {ss : List Statement} {lines : List Text}
    (hw : Writes ss lines) (h : ∀ s ∈ ss, s.Sound ∧ s.Unbroken) : ∀ l ∈ lines, '\n' ∉ l := by
  induction hw with
  | nil => exact fun l hl => absurd hl List.not_mem_nil
  | @cons s ss others lines hperm hw ih =>
    intro l hl
    obtain ⟨hsound, hfree⟩ := h s List.mem_cons_self
    rcases List.mem_append.1 hl with hl | hl
    · exact Statement.lineFeed_not_mem_scriptLines hsound hfree hperm l hl
    · exact ih (fun x hx => h x (List.mem_cons_of_mem _ hx)) l hl

theorem classify_lines_scriptOf {lines : List Text} (h : ∀ l ∈ lines, '\n' ∉ l) :
    (Text.lines (scriptOf lines)).map Line.classify = lines.map Line.classify := by
  have hlines := Text.lines_concat h (List.not_mem_nil (a := '\n'))
  rw [List.append_nil] at hlines
  change (Text.lines (Text.joinEnded '\n' lines)).map Line.classify = _
  rw [hlines, List.isEmpty_nil, if_pos rfl, List.append_nil, List.map_map]
  exact List.map_congr_left fun l _ => Line.classify_dropReturn l

end Script

/-! ## The laws -/

/-- The statements of a script, each written as its name tag, its other tags in any order and
its text in one line, are the statements of that script again. -/
theorem a_catalog_that_is_written_out_comes_back {script : Text} {c : Catalog}
    (hparse : Script.parse script = .ok c)
    (hblock : ∀ s ∈ c.statements, ¬ ['/', '*'] <:+: s.text)
    (hkind : ∀ s ∈ c.statements, Kind.ofText s.text = s.kind)
    {lines : List Text} (hlines : Writes c.statements lines) :
    Script.parse (scriptOf lines) = .ok c ∧ c.same c = true := by
  have hsound := Script.sound_statements hparse
  obtain ⟨hc, hnodup⟩ := Script.segments_of_parse hparse
  generalize hgiven : Segment.ofLines ((Text.lines script).map Line.classify) = given at hc
  have hname : ∀ g ∈ given, ∀ i, (g.statement i).name = g.value := by
    intro g hg i
    rw [← hgiven] at hg
    exact Segment.name_statement (Script.sound_segments hg).1 i
  subst hc
  obtain ⟨gs, hgs, hclasses⟩ := Segment.standsFor_of_writes hlines fun s hs =>
    ⟨(hsound s hs).1, hblock s hs, hkind s hs⟩
  have hcatalog := Segment.catalog_of_standsFor hname hgs
  have hparts : ∀ g ∈ gs, (∀ l ∈ g.body, l.isName = false) ∧ g.isComplete = true := by
    intro g hg
    obtain ⟨s, hs⟩ := Segment.exists_standsFor hgs hg
    exact ⟨hs.body, hs.complete⟩
  rw [← hcatalog] at hnodup ⊢
  refine ⟨?_, Catalog.same_self hnodup⟩
  rw [Script.parse_eq_segments, Script.classify_lines_scriptOf
    (Script.lineFeed_not_mem_of_writes hlines hsound), hclasses]
  exact Segment.parse_flatMap (fun g hg => (hparts g hg).1) (fun g hg => (hparts g hg).2) hnodup

/-- A script of two statements, one of them without code. Written out, the comment is gone, the
colon is doubled, and the key is in lower case. -/
theorem two_statements_come_back :
    let script := ("-- tag=name: Ü\nselect a:b -- x\n--tag=B:\x0b y \n, c where d = :e;\n" ++
      "-- tag=name:\n;").toList
    let first : Statement := ⟨"select a::b , c where d = :e".toList, .dql,
      (Tags.single Line.nameKey ['Ü']).insert ['b'] "\x0b y".toList, 0⟩
    let second : Statement := ⟨[], .unknown, Tags.single Line.nameKey [], 1⟩
    let c : Catalog := ⟨[(['ü'], first), ([], second)]⟩
    let lines := ["-- tag=name: Ü".toList, "-- tag=b: \x0b y".toList,
      "select a::b , c where d = :e;".toList, "-- tag=name: ".toList, [';']]
    Script.parse script = .ok c ∧ (∀ s ∈ c.statements, ¬ ['/', '*'] <:+: s.text) ∧
      (∀ s ∈ c.statements, Kind.ofText s.text = s.kind) ∧ Writes c.statements lines ∧
      Script.parse (scriptOf lines) = .ok c ∧ c.same c = true := by
  intro script first second c lines
  have hparse : Script.parse script = .ok c := by decide +kernel
  have hblock : ∀ s ∈ c.statements, ¬ ['/', '*'] <:+: s.text := by decide +kernel
  have hkind : ∀ s ∈ c.statements, Kind.ofText s.text = s.kind := by decide +kernel
  have hfirst : List.Perm [(['b'], "\x0b y".toList)] first.otherTags := by decide +kernel
  have hsecond : List.Perm [] second.otherTags := by decide +kernel
  have hwritten : lines = first.scriptLines [(['b'], "\x0b y".toList)] ++
      (second.scriptLines [] ++ []) := by decide +kernel
  have hlines : Writes c.statements lines := hwritten ▸ .cons hfirst (.cons hsecond .nil)
  exact ⟨hparse, hblock, hkind, hlines,
    a_catalog_that_is_written_out_comes_back hparse hblock hkind hlines⟩

end NamedSql
