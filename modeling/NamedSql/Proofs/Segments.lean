-- The line by line assembly and the cut into segments come to the same. A run over
-- a segment puts its statement behind the others, if it has a terminator, and a
-- name that is taken stops the run at the first segment that takes it again.
import Mathlib.Data.List.Basic
import NamedSql.Proofs.Runs

namespace NamedSql

namespace Segment

/-! ## Cutting lines into segments -/

/-- The lines of a segment: its name tag, and the lines behind it. -/
def lines (s : Segment) : List Line := .name s.value :: s.body

theorem lines_cut (ls : List Line) : (cut ls).1 ++ (cut ls).2.flatMap lines = ls := by
  induction ls with
  | nil => rfl
  | cons l ls ih => cases l <;> simpa [cut, lines] using ih

/-- Name tags stand nowhere but at the heads of segments. -/
theorem not_isName_cut (ls : List Line) :
    (∀ l ∈ (cut ls).1, l.isName = false) ∧
      ∀ s ∈ (cut ls).2, ∀ l ∈ s.body, l.isName = false := by
  induction ls with
  | nil => simp [cut]
  | cons l ls ih =>
    cases l with
    | name value =>
      refine ⟨by simp [cut], fun s hs => ?_⟩
      rcases List.mem_cons.1 hs with rfl | hs
      · exact ih.1
      · exact ih.2 s hs
    | _ =>
      refine ⟨fun x hx => ?_, ih.2⟩
      rcases List.mem_cons.1 hx with rfl | hx
      · rfl
      · exact ih.1 x hx

theorem cut_append {body : List Line} (h : ∀ l ∈ body, l.isName = false) (rest : List Line) :
    cut (body ++ rest) = (body ++ (cut rest).1, (cut rest).2) := by
  induction body with
  | nil => rfl
  | cons l ls ih =>
    have hl := h l List.mem_cons_self
    have ih := ih fun x hx => h x (List.mem_cons_of_mem _ hx)
    cases l with
    | name value => simp [Line.isName] at hl
    | _ => simp [cut, ih]

theorem cut_flatMap {segments : List Segment}
    (h : ∀ s ∈ segments, ∀ l ∈ s.body, l.isName = false) :
    cut (segments.flatMap lines) = ([], segments) := by
  induction segments with
  | nil => rfl
  | cons s rest ih =>
    have ih := ih fun x hx => h x (List.mem_cons_of_mem _ hx)
    rw [List.flatMap_cons, lines, List.cons_append, cut, cut_append (h s List.mem_cons_self), ih,
      List.append_nil]

/-! ## The statement of a segment -/

/-- The lines of a complete segment that count end at its first terminator. -/
theorem counted_of_isComplete {s : Segment} (h : s.isComplete = true) :
    ∃ before code after, s.body = before ++ Line.terminated code :: after ∧
      (∀ l ∈ before, isTerminator l = false) ∧ s.counted = before ++ [.terminated code] := by
  unfold isComplete at h
  obtain ⟨t, ht⟩ := Option.isSome_iff_exists.1 (List.find?_isSome.2 (List.any_eq_true.1 h))
  obtain ⟨hterm, before, after, hbody, hbefore⟩ := List.find?_eq_some_iff_append.1 ht
  have hopen : ∀ l ∈ before, isTerminator l = false := fun l hl => by simpa using hbefore l hl
  cases t with
  | terminated code =>
    refine ⟨before, code, after, hbody, hopen, ?_⟩
    unfold counted
    rw [ht, hbody, List.takeWhile_append_of_pos fun l hl => by simp [hopen l hl]]
    simp [isTerminator]
  | _ => simp [isTerminator] at hterm

theorem statement_of_draft (s : Segment) (ordinal : Nat) :
    (s.counted.foldl Draft.addLine (Draft.start s.value)).statement ordinal =
      s.statement ordinal := by
  have htext : (s.counted.foldl Draft.addLine (Draft.start s.value)).text = s.text := by
    rw [Draft.text_foldl [] _ _ (by simp) (by simp [Draft.start, List.intercalate])]
    rfl
  unfold Draft.statement statement
  rw [htext, Draft.tags_foldl]
  rfl

/-! ## A run over one segment -/

theorem steps_taken {a : Assembly} {s : Segment} (h : a.done.contains s.key = true) :
    a.steps s.lines = .error (.duplicateName s.key) :=
  Assembly.steps_cons_error (Assembly.begin_taken h) s.body

theorem steps_free {a : Assembly} {s : Segment} (h : a.done.contains s.key = false) :
    a.steps s.lines = Assembly.steps ⟨a.done, some (Draft.start s.value)⟩ s.body :=
  Assembly.steps_cons_ok (Assembly.begin_free h) s.body

theorem steps_complete {a : Assembly} {s : Segment} (hbody : ∀ l ∈ s.body, l.isName = false)
    (h : a.done.contains s.key = false) (hs : s.isComplete = true) :
    a.steps s.lines = .ok ⟨a.done.put s.key (s.statement a.done.size), none⟩ := by
  obtain ⟨before, code, after, hsplit, hopen, hcounted⟩ := counted_of_isComplete hs
  rw [hsplit] at hbody
  rw [steps_free h, hsplit, Assembly.steps_closed _ _ _ (fun l hl => hbody l (by simp [hl])) hopen
    fun l hl => hbody l (by simp [hl]), ← hcounted, statement_of_draft, Draft.name_foldl]
  rfl

theorem steps_incomplete {a : Assembly} {s : Segment} (hbody : ∀ l ∈ s.body, l.isName = false)
    (h : a.done.contains s.key = false) (hs : s.isComplete = false) :
    a.steps s.lines =
      .ok ⟨a.done, some (s.body.foldl Draft.addLine (Draft.start s.value))⟩ := by
  have hopen : ∀ l ∈ s.body, isTerminator l = false := fun l hl => by
    simpa using List.any_eq_false.1 hs l hl
  rw [steps_free h, Assembly.steps_open _ _ hbody hopen]

/-! ## The catalog of the segments -/

theorem names_catalog (segments : List Segment) :
    (catalog segments).names = (segments.filter isComplete).map key := by
  unfold Catalog.names catalog
  rw [List.map_map]
  change List.map (key ∘ Prod.fst) _ = _
  rw [← List.map_map, List.zipIdx_map_fst]

theorem contains_catalog (segments : List Segment) (key : Text) :
    (catalog segments).contains key = segments.any fun s => s.isComplete && s.key == key := by
  rw [Bool.eq_iff_iff, Catalog.contains_iff, names_catalog]
  simp [and_assoc]

theorem catalog_concat_complete {segments : List Segment} {s : Segment}
    (h : (catalog segments).contains s.key = false) (hs : s.isComplete = true) :
    catalog (segments ++ [s]) =
      (catalog segments).put s.key (s.statement (catalog segments).size) := by
  have hfree : s.key ∉ (catalog segments).names := by
    rw [← Catalog.contains_iff, h]
    simp
  have hsize : (catalog segments).size = (segments.filter isComplete).length := by
    simp [Catalog.size, catalog]
  have hput := Catalog.put_of_not_mem hfree (s.statement (catalog segments).size)
  rw [hsize] at hput ⊢
  unfold catalog at hput ⊢
  rw [List.filter_append, List.zipIdx_append]
  generalize Catalog.put _ _ _ = c at hput ⊢
  obtain ⟨es⟩ := c
  simpa [hs] using hput.symm

theorem catalog_concat_incomplete {segments : List Segment} {s : Segment}
    (hs : s.isComplete = false) : catalog (segments ++ [s]) = catalog segments := by
  simp [catalog, hs]

/-! ## A run over all segments -/

/-- The name of the first of the segments `later` that is taken when they come behind
`earlier` ones. -/
def firstTaken? (earlier later : List Segment) : Option Text :=
  ((later.zipIdx earlier.length).find? fun (s, i) => repeats (earlier ++ later) i s).map (·.1.key)

theorem repeats_next (earlier later : List Segment) (s : Segment) :
    repeats (earlier ++ s :: later) earlier.length s = (catalog earlier).contains s.key := by
  simp [repeats, contains_catalog]

theorem firstTaken?_cons (earlier later : List Segment) (s : Segment) :
    firstTaken? earlier (s :: later) =
      if (catalog earlier).contains s.key then some s.key
      else firstTaken? (earlier ++ [s]) later := by
  unfold firstTaken?
  rw [List.zipIdx_cons, List.find?_cons]
  simp only [repeats_next, List.append_assoc, List.singleton_append, List.length_append,
    List.length_singleton]
  cases (catalog earlier).contains s.key <;> rfl

theorem names_concat (earlier : List Segment) (s : Segment) :
    (catalog (earlier ++ [s])).names =
      (catalog earlier).names ++ if s.isComplete then [s.key] else [] := by
  rw [names_catalog, names_catalog, List.filter_append, List.map_append]
  cases hs : s.isComplete <;> simp [hs]

/-- Where no name is taken again, the names differ. -/
theorem nodup_names {earlier later : List Segment} (h : firstTaken? earlier later = none)
    (hnodup : (catalog earlier).names.Nodup) : (catalog (earlier ++ later)).names.Nodup := by
  induction later generalizing earlier with
  | nil => rwa [List.append_nil]
  | cons s rest ih =>
    rw [firstTaken?_cons] at h
    split at h
    · simp at h
    · rename_i hfree
      have hsplit : earlier ++ s :: rest = earlier ++ [s] ++ rest := by simp
      rw [hsplit]
      apply ih h
      rw [names_concat]
      rw [Catalog.contains_iff] at hfree
      cases s.isComplete with
      | false => simpa using hnodup
      | true =>
        rw [if_pos rfl, List.nodup_append]
        refine ⟨hnodup, by simp, ?_⟩
        intro a ha b hb hab
        rw [hab, List.mem_singleton.1 hb] at ha
        exact hfree ha

theorem firstTaken?_eq_none {earlier later : List Segment}
    (h : ((earlier ++ later).map key).Nodup) : firstTaken? earlier later = none := by
  induction later generalizing earlier with
  | nil => rfl
  | cons s rest ih =>
    have hsplit : earlier ++ s :: rest = earlier ++ [s] ++ rest := by simp
    have hfree : s.key ∉ earlier.map key := by
      rw [List.map_append, List.map_cons] at h
      intro hmem
      exact (List.nodup_append.1 h).2.2 _ hmem _ List.mem_cons_self rfl
    have htaken : (catalog earlier).contains s.key = false := by
      rw [Bool.eq_false_iff, ne_eq, Catalog.contains_iff, names_catalog]
      intro hmem
      obtain ⟨x, hx, hkey⟩ := List.mem_map.1 hmem
      exact hfree (List.mem_map.2 ⟨x, (List.mem_filter.1 hx).1, hkey⟩)
    rw [firstTaken?_cons, if_neg (by simp [htaken])]
    exact ih (hsplit ▸ h)

theorem steps_catalog (earlier : List Segment) (o : Option Draft) {s : Segment}
    (hbody : ∀ l ∈ s.body, l.isName = false)
    (hfree : (catalog earlier).contains s.key = false) :
    ∃ o', Assembly.steps ⟨catalog earlier, o⟩ s.lines = .ok ⟨catalog (earlier ++ [s]), o'⟩ := by
  by_cases hs : s.isComplete = true
  · refine ⟨none, ?_⟩
    rw [steps_complete hbody hfree hs, catalog_concat_complete hfree hs]
  · have hs := Bool.eq_false_iff.2 hs
    refine ⟨some (s.body.foldl Draft.addLine (Draft.start s.value)), ?_⟩
    rw [steps_incomplete hbody hfree hs, catalog_concat_incomplete hs]

/-- The run over segments that come behind others. -/
theorem steps_segments (earlier later : List Segment) (o : Option Draft)
    (hbody : ∀ s ∈ later, ∀ l ∈ s.body, l.isName = false) :
    (Assembly.steps ⟨catalog earlier, o⟩ (later.flatMap lines)).map Assembly.catalog =
      match firstTaken? earlier later with
      | some name => .error (.duplicateName name)
      | none => .ok (catalog (earlier ++ later)) := by
  induction later generalizing earlier o with
  | nil => simp [firstTaken?, Assembly.catalog, Except.map]
  | cons s later ih =>
    rw [List.flatMap_cons, firstTaken?_cons]
    by_cases htaken : (catalog earlier).contains s.key = true
    · rw [Assembly.steps_append_error (steps_taken htaken), if_pos htaken]
      rfl
    · obtain ⟨o', hs⟩ :=
        steps_catalog earlier o (hbody s List.mem_cons_self) (Bool.eq_false_iff.2 htaken)
      have hsplit : earlier ++ s :: later = earlier ++ [s] ++ later := by simp
      rw [Assembly.steps_append_ok hs, if_neg htaken, hsplit]
      exact ih _ o' fun x hx => hbody x (List.mem_cons_of_mem _ hx)

/-- A run from the start. The lines before the first name tag do nothing. -/
theorem steps_start (ls : List Line) :
    (Assembly.start.steps ls).map Assembly.catalog = parse ls := by
  have hpre : Assembly.start.steps (cut ls).1 = .ok Assembly.start :=
    Assembly.steps_outside _ (not_isName_cut ls).1
  have hsplit := Assembly.steps_append_ok hpre ((cut ls).2.flatMap lines)
  rw [lines_cut] at hsplit
  rw [hsplit]
  exact steps_segments [] (cut ls).2 none (not_isName_cut ls).2

end Segment

/-- A script that is read takes no name again, and it gives the catalog of its segments. -/
theorem Script.segments_of_parseLines {lines : List Text} {c : Catalog}
    (h : Script.parseLines lines = .ok c) :
    Segment.firstRepeat? (Segment.ofLines (lines.map Line.classify)) = none ∧
      c = Segment.catalog (Segment.ofLines (lines.map Line.classify)) := by
  unfold Script.parseLines at h
  rw [Assembly.takeAll_eq_steps, Segment.steps_start] at h
  unfold Segment.parse at h
  split at h
  · cases h
  · rename_i hfree
    exact ⟨hfree, (Except.ok.inj h).symm⟩

/-! ## The laws -/

/-- Every script, read line by line, gives what its segments give all at once: the same
statements in the same order, or the same first name that is taken again. -/
theorem line_by_line_is_segment_by_segment (lines : List Text) :
    Script.parseLines lines = Segment.parse (lines.map Line.classify) := by
  unfold Script.parseLines
  rw [Assembly.takeAll_eq_steps, Segment.steps_start]

/-- A name that is abandoned and used again, a tag that is written twice, colons that are doubled
and colons that are left alone, and then a name that is taken. -/
theorem two_of_three_segments_give_statements :
    let lines := ["select 0;".toList, "-- tag=name: Now".toList, "select 1".toList,
      "-- tag=name: NOW".toList, "--tag=by: me".toList, "select 'HH24:MI'".toList,
      "-- tag=By: you".toList, "from t where a = :a;".toList, "select 2;".toList,
      "-- tag=name: make".toList, "create view v as select ':' where a = :a;".toList]
    let now : Statement :=
      { text := "select 'HH24::MI' from t where a = :a".toList, kind := .dql,
        tags := (Tags.single Line.nameKey "NOW".toList).insert "by".toList "you".toList,
        ordinal := 0 }
    let make : Statement :=
      { text := "create view v as select ':' where a = :a".toList, kind := .ddl,
        tags := Tags.single Line.nameKey "make".toList, ordinal := 1 }
    Script.parseLines lines = .ok ⟨[("now".toList, now), ("make".toList, make)]⟩ ∧
      Script.parseLines (lines ++ ["-- tag=name: nOW".toList]) =
        .error (.duplicateName "now".toList) := by
  intro lines now make
  refine ⟨(line_by_line_is_segment_by_segment lines).trans ?_,
    (line_by_line_is_segment_by_segment _).trans ?_⟩
  · decide +kernel
  · decide +kernel

end NamedSql
