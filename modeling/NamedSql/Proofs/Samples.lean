-- The lines of sample scripts. Free text does not break out of its line, since a space takes the
-- place of every line break, and it does not change what the start of its line says. So a sample
-- script is read line by line, and all lines but those of free code are of the class they are
-- meant to have.
import NamedSql.Proofs.LineEnds
import NamedSql.Proofs.Reached
import NamedSql.Proofs.Spellings
import NamedSql.Sample

namespace NamedSql

/-! ## Tags with any value -/

namespace Tag

/-- The blanks in front of a value belong to the gap before it. -/
theorem exists_spelling (value : Text) {key : Text} (hne : key ≠ [])
    (hkey : ∀ c ∈ key, isKeyChar c = true) :
    ∃ s : Spelling, s.Valid ∧ s.line = (usualSpelling key value).line ∧
      s.tag = ⟨lowerKey key, Text.skipBlanks value⟩ := by
  obtain ⟨gap, hsplit, hgap, hhead⟩ := Text.skipBlanks_split value
  refine ⟨{ usualSpelling key value with
    gap₆ := (usualSpelling key value).gap₆ ++ gap, value := Text.skipBlanks value },
    ⟨?_, rfl, hne, hkey, hhead⟩, ?_, rfl⟩
  · intro c hc
    simp only [usualSpelling, List.append_assoc, List.nil_append, List.mem_append] at hc
    rcases hc with hc | hc | hc
    · rw [List.mem_singleton.1 hc]
      decide
    · split at hc
      · exact absurd hc List.not_mem_nil
      · rw [List.mem_singleton.1 hc]
        decide
    · exact hgap c hc
  · simp only [Spelling.line, usualSpelling, List.append_assoc, ← hsplit]

end Tag

namespace Line

/-- The usual spelling gives any value, without the white space behind it and the blanks before
it. -/
theorem classify_tagLine_trimmed (value : Text) {key : Text} (hne : key ≠ [])
    (hkey : ∀ c ∈ key, Tag.isKeyChar c = true) :
    classify (Tag.line key value) =
      ofTag ⟨Tag.lowerKey key, Text.skipBlanks (Text.trimEnd value)⟩ := by
  obtain ⟨w, hsplit, hspace⟩ := Text.trimEnd_split value
  obtain ⟨s, hs, hline, htag⟩ := Tag.exists_spelling (Text.trimEnd value) hne hkey
  have hend : Tag.line key value = Tag.line key (Text.trimEnd value) ++ w := by
    conv_lhs => rw [hsplit]
    exact (List.append_assoc _ _ _).symm
  have hlast : ∀ c, (Text.trimEnd value).getLast? = some c → Text.isSpace c = false :=
    fun c hc => Text.getLast?_trimEnd hc
  rw [← htag]
  apply classify_of_spelling hs
  rw [hline, hend, Text.trim_append_spaces _ hspace, Tag.trim_line hlast]

theorem comment_or_tag_of_dashes {raw : Text} (h : ['-', '-'] <+: Text.trim raw) :
    classify raw = .comment ∨ ∃ t, classify raw = ofTag t := by
  generalize hl : classify raw = l
  cases hl ▸ outcome raw with
  | comment _ _ => exact Or.inl rfl
  | @tag t _ => exact Or.inr ⟨t, rfl⟩
  | blank hnil => simp [hnil] at h
  | control hcontrol => simp [startsControl_of_dashes h] at hcontrol
  | code hcode => exact absurd h hcode.dashes

end Line

/-! ## Lines without code -/

/-- A line that leaves no code adds nothing to a text. -/
theorem Assembly.Move.text_of_code?_none {a b : Assembly} {l : Line} (h : Move a l b)
    (hl : l.code? = none) : b.done = a.done ∧
      ∀ d, b.draft = some d → d.text = [] ∨ ∃ e, a.draft = some e ∧ e.text = d.text := by
  cases h with
  | outside _ => exact ⟨rfl, fun d hd => absurd hd (by simp)⟩
  | opens _ =>
    refine ⟨rfl, fun d hd => Or.inl ?_⟩
    rw [← Option.some.inj hd]
    rfl
  | @adds c e l _ _ =>
    refine ⟨rfl, fun d hd => Or.inr ⟨e, rfl, ?_⟩⟩
    rw [← Option.some.inj hd]
    cases l <;> first | rfl | cases hl
  | closes => cases hl

/-! ## The pools -/

namespace Sample

theorem getElem?_pick {pool : List Text} (hne : pool ≠ []) (i : Nat) :
    pool[i % pool.length]? = some (pick pool i) := by
  have hlt : i % pool.length < pool.length := Nat.mod_lt i (List.length_pos_iff.2 hne)
  rw [pick, List.getElem?_eq_getElem hlt, Option.getD_some]

theorem pick_mem {pool : List Text} (hne : pool ≠ []) (i : Nat) : pick pool i ∈ pool :=
  List.mem_of_getElem? (getElem?_pick hne i)

theorem trimmed_of_mem_pool {t : Text} (h : t ∈ names ++ heads) : Text.Trimmed t := by
  have hends : (names ++ heads).all (fun t =>
      t.head?.all (!Text.isSpace ·) && t.getLast?.all (!Text.isSpace ·)) = true := by decide
  have ht := List.all_eq_true.1 hends t h
  rw [Bool.and_eq_true] at ht
  constructor
  · intro c hc
    simpa [hc] using ht.1
  · intro c hc
    simpa [hc] using ht.2

theorem isKeyChar_name : ∀ c ∈ "name".toList, Tag.isKeyChar c = true :=
  List.all_eq_true.1 (by decide)

theorem tagKey_mem (i : Nat) : tagKey i ∈ ["key0", "key1", "key2", "key3"].map String.toList := by
  have hcases : i % 4 = 0 ∨ i % 4 = 1 ∨ i % 4 = 2 ∨ i % 4 = 3 := by omega
  unfold tagKey
  rcases hcases with h | h | h | h <;> rw [h] <;> decide

theorem isKeyChar_tagKey (i : Nat) : ∀ c ∈ tagKey i, Tag.isKeyChar c = true := by
  have hkeys : (["key0", "key1", "key2", "key3"].map String.toList).all
      (fun key => key.all Tag.isKeyChar) = true := by decide
  exact List.all_eq_true.1 (List.all_eq_true.1 hkeys _ (tagKey_mem i))

theorem lowerKey_tagKey (i : Nat) : tagKey i ≠ [] ∧ Tag.lowerKey (tagKey i) = tagKey i ∧
    tagKey i ≠ NamedSql.Line.nameKey := by
  have hkeys : ∀ key ∈ ["key0", "key1", "key2", "key3"].map String.toList,
      key ≠ [] ∧ Tag.lowerKey key = key ∧ key ≠ NamedSql.Line.nameKey := by decide
  exact hkeys _ (tagKey_mem i)

/-! ## Lines without line breaks -/

section
variable {c : Char} (hc : c = '\n' ∨ c = '\r')
include hc

theorem break_not_mem_oneLine (t : Text) : c ∉ oneLine t := by
  intro hmem
  obtain ⟨d, -, hd⟩ := List.mem_map.1 hmem
  split at hd
  · subst hd
    revert hc
    decide
  · rename_i hfree
    exact hfree (hd ▸ hc)

theorem break_not_mem_pool {t : Text} (h : t ∈ names ++ heads) : c ∉ t := by
  have hpool : ∀ t ∈ names ++ heads, '\n' ∉ t ∧ '\r' ∉ t := by decide
  rcases hc with rfl | rfl
  · exact (hpool t h).1
  · exact (hpool t h).2

theorem break_not_mem_tagLine {key value : Text} (hkey : ∀ d ∈ key, Tag.isKeyChar d = true)
    (hvalue : c ∉ value) : c ∉ Tag.line key value := by
  rcases hc with rfl | rfl <;> exact Tag.not_mem_line (by decide) (by decide) hkey hvalue

theorem break_not_mem_text {l : Line} (hl : ∀ t, l ≠ .raw t) : c ∉ l.text := by
  have hfree := break_not_mem_oneLine hc
  have hmarks : c ∉ [' ', '-', ';'] := by rcases hc with rfl | rfl <;> decide
  simp only [List.mem_cons, List.not_mem_nil, or_false, not_or] at hmarks
  cases l with
  | name i =>
    have hname := break_not_mem_pool hc (List.mem_append_left _ (pick_mem (by decide) i))
    exact break_not_mem_tagLine hc isKeyChar_name hname
  | tag i value => exact break_not_mem_tagLine hc (isKeyChar_tagKey i) (hfree value)
  | head i rest =>
    have hhead := break_not_mem_pool hc (List.mem_append_right _ (pick_mem (by decide) i))
    change c ∉ pick heads i ++ ' ' :: oneLine rest
    simp [hhead, hmarks, hfree rest]
  | body t isTerminated =>
    cases isTerminated with
    | false => exact hfree t
    | true =>
      change c ∉ oneLine t ++ [';']
      simp [hmarks, hfree t]
  | control isCommit => cases isCommit <;> rcases hc with rfl | rfl <;> decide
  | comment t =>
    change c ∉ '-' :: '-' :: ' ' :: oneLine t
    simp [hmarks, hfree t]
  | blank => exact List.not_mem_nil
  | raw t => exact absurd rfl (hl t)

end

/-- The lines of a sample script without raw lines are the sample lines. -/
theorem lines_script {ls : List Line} (h : ∀ t, Line.raw t ∉ ls) :
    Text.lines (script ls) = ls.map Line.text := by
  have hraw : ∀ l ∈ ls, ∀ t, l ≠ .raw t := fun l hl t heq => h t (heq ▸ hl)
  have hfeed : ∀ x ∈ ls.map Line.text, '\n' ∉ x := by
    intro x hx
    obtain ⟨l, hl, rfl⟩ := List.mem_map.1 hx
    exact break_not_mem_text (Or.inl rfl) (hraw l hl)
  have hreturn : (ls.map Line.text).map Text.dropReturn = ls.map Line.text := by
    rw [List.map_map]
    refine List.map_congr_left fun l hl => if_neg fun hlast => ?_
    exact break_not_mem_text (Or.inr rfl) (hraw l hl) (List.mem_of_getLast? hlast)
  have hscript : script ls = Text.joinEnded '\n' (ls.map Line.text) ++ [] := by
    rw [List.append_nil, Text.joinEnded, List.flatMap_map]
    rfl
  rw [hscript, Text.lines_concat hfeed List.not_mem_nil, hreturn, List.isEmpty_nil, if_pos rfl,
    List.append_nil]

/-! ## Lines of each class -/

theorem classify_name (i : Nat) :
    NamedSql.Line.classify (Line.name i).text = .name (pick names i) := by
  have hname := trimmed_of_mem_pool (List.mem_append_left heads (pick_mem (by decide) i))
  exact NamedSql.Line.classify_tagLine (by decide) isKeyChar_name
    (fun c hc => Text.not_isBlank_of_not_isSpace (hname.head c hc)) hname.last

theorem classify_tag (i : Nat) (value : Text) :
    NamedSql.Line.classify (Line.tag i value).text =
      .tag (tagKey i) (Text.skipBlanks (Text.trimEnd (oneLine value))) := by
  obtain ⟨hne, hlow, hother⟩ := lowerKey_tagKey i
  refine (NamedSql.Line.classify_tagLine_trimmed (oneLine value) hne (isKeyChar_tagKey i)).trans ?_
  rw [hlow, NamedSql.Line.ofTag, if_neg hother]

/-- Nothing behind the head of a statement makes its line anything but code. -/
theorem codeLine_head (i : Nat) (rest : Text) :
    NamedSql.Line.CodeLine (Text.trim (Line.head i rest).text) := by
  have hmem : pick heads i ∈ heads := pick_mem (by decide) i
  have hheads : ∀ t ∈ heads, NamedSql.Line.startsControl t = false ∧ t ≠ [] ∧
      t.head? ≠ some '-' := by decide
  obtain ⟨hcontrol, hne, hdash⟩ := hheads _ hmem
  have htrim : Text.trim (Line.head i rest).text =
      pick heads i ++ Text.trimEnd (' ' :: oneLine rest) :=
    (trimmed_of_mem_pool (List.mem_append_right _ hmem)).trim_append hne _
  have hstart : Text.trim (Line.head i rest).text <+: pick heads i ++ ' ' :: oneLine rest := by
    rw [htrim]
    exact (List.prefix_append_right_inj _).2 (Text.trimEnd_isPrefix _)
  apply NamedSql.Line.codeLine_of_head
  · simp [htrim, hne]
  · exact (Text.trimmed_trim _).head
  · apply NamedSql.Line.startsControl_of_isPrefix hstart
    rw [NamedSql.Line.startsControl_append_cons _ _ (by decide), hcontrol]
  · intro hdashes
    have hhead := Text.head?_of_isPrefix hdashes rfl
    rw [htrim, List.head?_append_of_ne_nil _ hne] at hhead
    exact hdash hhead

theorem dashes_comment (t : Text) : ['-', '-'] <+: Text.trim (Line.comment t).text := by
  have htrimmed : Text.Trimmed ['-', '-'] := by
    constructor <;> (intro c hc; obtain rfl := Option.some.inj hc; decide)
  have htext : (Line.comment t).text = ['-', '-'] ++ ' ' :: oneLine t := rfl
  rw [htext, htrimmed.trim_append (by decide)]
  exact List.prefix_append _ _

end Sample

/-! ## The laws -/

/-- A sample script without raw lines is read as its sample lines one by one, and no text that a
line carries makes it a line of another class. A name is one of the pool, a tag has its key and
its value without the white space behind it and the blanks before it, the head of a statement is
code, and a comment is a comment or a tag, so it leaves the finished statements and the text of
the open one as they are, or opens a statement without text. -/
theorem samples_are_read_line_by_line_as_they_are_meant :
    (∀ ls : List Sample.Line, (∀ t, Sample.Line.raw t ∉ ls) →
      Text.lines (Sample.script ls) = ls.map Sample.Line.text ∧
      Script.parse (Sample.script ls) = Script.parseLines (ls.map Sample.Line.text)) ∧
    (∀ i, ∃ name, Sample.names[i % 6]? = some name ∧
      Line.classify (Sample.Line.name i).text = .name name) ∧
    (∀ i value, Line.classify (Sample.Line.tag i value).text =
      .tag ("key".toList ++ Nat.toDigits 10 (i % 4))
        (((Sample.oneLine value).rdropWhile Text.isSpace).dropWhile Text.isBlank)) ∧
    (∀ i rest, ∃ code, Line.classify (Sample.Line.head i rest).text = .fragment code ∨
      Line.classify (Sample.Line.head i rest).text = .terminated code) ∧
    (∀ isCommit, Line.classify (Sample.Line.control isCommit).text = .control) ∧
    Line.classify Sample.Line.blank.text = .blank ∧
    ∀ t, (Line.classify (Sample.Line.comment t).text = .comment ∨
        (∃ name, Line.classify (Sample.Line.comment t).text = .name name) ∨
        ∃ key value, Line.classify (Sample.Line.comment t).text = .tag key value) ∧
      ∀ a b : Assembly, a.take (Sample.Line.comment t).text = .ok b → b.done = a.done ∧
        ∀ d, b.draft = some d → d.text = [] ∨ ∃ e, a.draft = some e ∧ e.text = d.text := by
  refine ⟨fun ls h => ?_, fun i => ?_, Sample.classify_tag, fun i rest => ?_, by decide, rfl,
    fun t => ⟨?_, fun a b hb => ?_⟩⟩
  · have hlines := Sample.lines_script h
    exact ⟨hlines, by rw [Script.parse, hlines]⟩
  · exact ⟨Sample.pick Sample.names i, Sample.getElem?_pick (by decide) i, Sample.classify_name i⟩
  · rw [Line.classify_of_codeLine (Sample.codeLine_head i rest)]
    exact Line.ofCode_cases _
  · rcases Line.comment_or_tag_of_dashes (Sample.dashes_comment t) with h | ⟨tag, h⟩
    · exact Or.inl h
    · rw [h, Line.ofTag]
      split
      · exact Or.inr (Or.inl ⟨_, rfl⟩)
      · exact Or.inr (Or.inr ⟨_, _, rfl⟩)
  · refine (Assembly.move_of_step hb).text_of_code?_none ?_
    rcases Line.comment_or_tag_of_dashes (Sample.dashes_comment t) with h | ⟨tag, h⟩
    · rw [h]
      rfl
    · rw [h, Line.code?_ofTag]

/-- Texts with line breaks, marks and exotic white space. The comment holds a tag, so it opens a
statement, and the code of the one before it is gone. -/
theorem sample_texts_with_line_breaks_stay_in_their_lines :
    let value := "\t a\r\n; -- b\u2003\n".toList
    let comment := Sample.Line.comment "tag=name: Z\n;".toList
    let ls : List Sample.Line := [.name 8, .tag 6 value, .head 9 "*/ t\ncommit".toList, comment,
      .control false, .blank]
    let a : Assembly := ⟨.empty, some ⟨"update1".toList,
      (Tags.single Line.nameKey "Update1".toList).insert "key2".toList "a  ; -- b".toList,
      "select * from */ t commit".toList⟩⟩
    let b : Assembly := ⟨.empty, some ⟨"z ;".toList, Tags.single Line.nameKey "Z ;".toList, []⟩⟩
    (∀ t, Sample.Line.raw t ∉ ls) ∧
      Text.lines (Sample.script ls) = ["-- tag=name: Update1", "-- tag=key2: \t a  ; -- b\u2003 ",
        "select * from */ t commit", "-- tag=name: Z ;", "rollback; -- undo", ""].map String.toList ∧
      Script.parse (Sample.script ls) = .ok .empty ∧
      Line.classify (Sample.Line.tag 6 value).text = .tag "key2".toList "a  ; -- b".toList ∧
      a.take comment.text = .ok b ∧ b.done = a.done ∧ ∃ d, b.draft = some d ∧
        (d.text = [] ∨ ∃ e, a.draft = some e ∧ e.text = d.text) := by
  intro value comment ls a b
  obtain ⟨hscript, -, htag, -, -, -, hcomment⟩ := samples_are_read_line_by_line_as_they_are_meant
  have hraw : ∀ t, Sample.Line.raw t ∉ ls := by
    intro t
    simp [ls, comment]
  have htake : a.take comment.text = .ok b := by decide +kernel
  obtain ⟨hlines, hparse⟩ := hscript ls hraw
  obtain ⟨hdone, htext⟩ := (hcomment _).2 a b htake
  exact ⟨hraw, hlines.trans (by decide +kernel), hparse.trans (by decide +kernel),
    (htag 6 value).trans (by decide +kernel), htake, hdone, _, rfl, htext _ rfl⟩

end NamedSql
