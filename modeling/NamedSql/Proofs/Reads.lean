-- The lines of reads. Where the pieces are cut, how often a read is interrupted and
-- how many pieces are empty makes no difference: the lines are those of all bytes at
-- once. So a script is the same however it is handed over.
import NamedSql.Proofs.LineEnds
import NamedSql.Proofs.Runs
import NamedSql.Script

namespace NamedSql

namespace Read

/-! ## The pure model -/

/-- What stands behind the last line feed is a line, unless it is empty or a failure
takes it. -/
def lastLine (failure : Option ReadFailure) (left : List UInt8) :
    List (Except ReadFailure Text) :=
  if failure.isSome || left.isEmpty then [] else [decodeLine left]

/-- The lines that count of the bytes before a failure or the end: all that a line feed
ended, and the last one. -/
def linesOf (bytes : List UInt8) (failure : Option ReadFailure) :
    List (Except ReadFailure Text) :=
  (Text.cutAt lineFeed bytes).1.map decodeEnded ++
    lastLine failure (Text.cutAt lineFeed bytes).2

/-! ## The lines of reads -/

theorem linesFrom_eq {part : List UInt8} (h : lineFeed ∉ part) (reads : List Read) :
    linesFrom part reads = linesOf (part ++ content reads) (failure? reads) ++
      ((failure? reads).map Except.error).toList := by
  induction reads generalizing part with
  | nil =>
    simp only [linesFrom, linesOf, content, failure?, List.append_nil, Text.cutAt_of_not_mem h]
    cases part <;> rfl
  | cons read rest ih =>
    cases read with
    | interrupted => exact ih h
    | failed why =>
      simp only [linesFrom, linesOf, content, failure?, List.append_nil, Text.cutAt_of_not_mem h]
      rfl
    | bytes piece =>
      have hleft := (@Text.not_mem_cutAt _ _ lineFeed (part ++ piece)).2
      simp only [linesFrom, content, failure?, ih hleft]
      unfold linesOf
      rw [← List.append_assoc part, Text.cutAt_append lineFeed (part ++ piece)]
      simp only [List.map_append, List.append_assoc]

/-- The lines of reads are those of all their bytes, and a failure comes behind them. -/
theorem lines_eq (reads : List Read) :
    lines reads = linesOf (content reads) (failure? reads) ++
      ((failure? reads).map Except.error).toList := by
  unfold lines
  rw [linesFrom_eq (by simp), List.nil_append]

/-! ## The lines of an encoded text -/

theorem decodeLine_encode (t : Text) : decodeLine (Text.encode t) = .ok t := by
  unfold decodeLine
  rw [Text.decode?_encode]

theorem decodeEnded_encode (t : Text) :
    decodeEnded (Text.encode t) = .ok (Text.dropReturn t) := by
  unfold decodeEnded
  rw [decodeLine_encode]
  rfl

theorem isEmpty_encode (t : Text) : (Text.encode t).isEmpty = t.isEmpty := by
  cases t with
  | nil => rfl
  | cons c cs =>
    have hne : String.utf8EncodeChar c ≠ [] := String.utf8EncodeChar_ne_nil
    simp [Text.encode, hne]

theorem linesOf_encode (t : Text) :
    linesOf (Text.encode t) none = (Text.lines t).map Except.ok := by
  unfold linesOf Text.lines
  rw [Text.cutAt_encode, List.map_append, List.map_map, List.map_map]
  congr 1
  · exact List.map_congr_left fun p _ => decodeEnded_encode p
  · simp only [lastLine, Option.isSome_none, Bool.false_or, isEmpty_encode, decodeLine_encode]
    split <;> rfl

end Read

/-! ## Runs over the lines of reads -/

namespace Script

theorem foldlM_takeRead_ok (a : Assembly) (lines : List Text) :
    (lines.map Except.ok).foldlM takeRead a = a.takeAll lines := by
  unfold Assembly.takeAll
  rw [List.foldlM_map]
  rfl

theorem parseReads_of_encode {script : Text} {reads : List Read}
    (hbytes : Read.content reads = Text.encode script) (hgood : Read.failure? reads = none) :
    parseReads reads = parse script := by
  unfold parseReads parse parseLines
  rw [Read.lines_eq, hbytes, hgood, Read.linesOf_encode, Option.map_none, Option.toList_none,
    List.append_nil, foldlM_takeRead_ok]

/-! ## Lines put together -/

theorem parseLines_congr {xs ys : List Text} (h : xs.map Line.classify = ys.map Line.classify) :
    parseLines xs = parseLines ys := by
  unfold parseLines
  rw [Assembly.takeAll_eq_steps, Assembly.takeAll_eq_steps, h]

/-- A line that is ignored makes no difference. -/
theorem parseLines_insert_ignorable (xs ys : List Text) {l : Text}
    (h : (Line.classify l).isIgnorable = true) :
    parseLines (xs ++ l :: ys) = parseLines (xs ++ ys) := by
  unfold parseLines
  rw [Assembly.takeAll_eq_steps, Assembly.takeAll_eq_steps, List.map_append, List.map_append,
    List.map_cons]
  cases hxs : Assembly.start.steps (xs.map Line.classify) with
  | error e => rw [Assembly.steps_append_error hxs, Assembly.steps_append_error hxs]
  | ok a =>
    rw [Assembly.steps_append_ok hxs, Assembly.steps_append_ok hxs,
      Assembly.steps_cons_ok (Assembly.step_ignorable a h)]

/-- Lines that are put together with line feeds give what they give one by one. -/
theorem parse_intercalate {lines : List Text} (h : ∀ l ∈ lines, '\n' ∉ l) :
    parse (List.intercalate ['\n'] lines) = parseLines lines := by
  rcases List.eq_nil_or_concat lines with rfl | ⟨init, last, rfl⟩
  · rfl
  · rw [List.concat_eq_append] at h ⊢
    have hinit' : ∀ l ∈ init, '\n' ∉ l := fun l hl => h l (by simp [hl])
    have hlines := Text.lines_concat hinit' (h last (by simp))
    have hinit : (init.map Text.dropReturn).map Line.classify = init.map Line.classify := by
      rw [List.map_map]
      exact List.map_congr_left fun l _ => Line.classify_dropReturn l
    unfold parse
    rw [Text.intercalate_concat, hlines]
    by_cases hlast : last = []
    · subst hlast
      rw [parseLines_insert_ignorable init [] rfl, List.append_nil]
      exact parseLines_congr (by simpa using hinit)
    · apply parseLines_congr
      simpa [hlast] using hinit

end Script

/-! ## The laws -/

/-- A script gives the same statements, or the same name that is taken again, however it is
handed over: by reads that cut its bytes anywhere, as a text, or line by line. Lines
without line feeds can also be put together before. -/
theorem all_ways_of_handing_over_a_script_agree (script : Text) (reads : List Read)
    (hbytes : Read.content reads = Text.encode script) (hgood : Read.failure? reads = none) :
    Script.parseReads reads = Script.parse script ∧
      Catalog.ofText script = Script.parse script ∧
      (Assembly.start.takeAll (Text.lines script)).map Assembly.catalog = Script.parse script ∧
      ∀ lines : List Text, (∀ l ∈ lines, '\n' ∉ l) →
        Script.parseLines lines = Script.parse (List.intercalate ['\n'] lines) := by
  refine ⟨Script.parseReads_of_encode hbytes hgood, rfl, rfl, ?_⟩
  intro lines h
  exact (Script.parse_intercalate h).symm

/-- A script of two lines, cut inside of a character and inside of a line end, with a read
that is interrupted and a piece that is empty. -/
theorem a_script_in_pieces_agrees :
    let script := "-- tag=name: é\r\nselect 1;".toList
    let reads := [.bytes [45, 45, 32, 116, 97, 103, 61, 110, 97, 109, 101, 58, 32, 195],
      .interrupted, .bytes [], .bytes [169, 13], .bytes [10, 115, 101, 108, 101, 99, 116, 32, 49],
      .interrupted, .bytes [59]]
    Read.content reads = Text.encode script ∧ Read.failure? reads = none ∧
      Script.parseReads reads = Script.parse script := by
  intro script reads
  have hbytes : Read.content reads = Text.encode script := by decide
  have hgood : Read.failure? reads = none := by decide
  exact ⟨hbytes, hgood, (all_ways_of_handing_over_a_script_agree script reads hbytes hgood).1⟩

end NamedSql
