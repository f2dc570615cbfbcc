-- The spellings of a tag line. The grammar of tag lines is read without going back, and still no
-- line that fits it is missed: each part ends where its kind of character ends, so
-- a line can be taken apart in one way at most.
import NamedSql.Proofs.Classes

namespace NamedSql

/-! ## Parts of a line -/

namespace Text

theorem run_unique {p : Char → Bool} {a b s t : Text} (ha : ∀ c ∈ a, p c = true)
    (hb : ∀ c ∈ b, p c = true) (hs : ∀ c, s.head? = some c → p c = false)
    (ht : ∀ c, t.head? = some c → p c = false) (h : a ++ s = b ++ t) : a = b ∧ s = t := by
  obtain ⟨htake, hdrop⟩ := run_split ha hs
  obtain ⟨htake', hdrop'⟩ := run_split hb ht
  rw [h] at htake hdrop
  exact ⟨htake.symm.trans htake', hdrop.symm.trans hdrop'⟩

end Text

namespace Tag.Spelling

theorem gap_mark_unique {gap gap' mark r r' : Text} (hgap : ∀ c ∈ gap, Text.isBlank c = true)
    (hgap' : ∀ c ∈ gap', Text.isBlank c = true) (hmark : isMark mark = true) (hne : mark ≠ [])
    (h : gap ++ (mark ++ r) = gap' ++ (mark ++ r')) : gap = gap' ∧ r = r' := by
  have hhead : ∀ r c, (mark ++ r).head? = some c → Text.isBlank c = false := by
    intro r c hc
    obtain ⟨m, ms, rfl⟩ := List.exists_cons_of_ne_nil hne
    obtain rfl := Option.some.inj hc
    have hm := List.all_eq_true.1 hmark m List.mem_cons_self
    simp only [Bool.and_eq_true, Bool.not_eq_true'] at hm
    exact hm.2
  obtain ⟨rfl, hrest⟩ := Text.run_unique hgap hgap' (hhead r) (hhead r') h
  exact ⟨rfl, List.append_cancel_left hrest⟩

/-- A line is spelled in one way. -/
theorem eq_of_line_eq {s t : Spelling} (hs : s.Valid) (ht : t.Valid) (h : s.line = t.line) :
    s = t := by
  obtain ⟨hs₁, hs₂, hs₃, hs₄, hs₅, hs₆⟩ := hs.each_gap
  obtain ⟨ht₁, ht₂, ht₃, ht₄, ht₅, ht₆⟩ := ht.each_gap
  rw [line_eq, line_eq] at h
  obtain ⟨hgap₁, h⟩ := gap_mark_unique hs₁ ht₁ (by decide) (by decide) h
  obtain ⟨hgap₂, h⟩ := Text.run_unique hs₂ ht₂ (fun _ => head?_word hs _)
    (fun _ => head?_word ht _) h
  have hlength : s.word.length = t.word.length := by
    have hword := congrArg List.length (hs.word.trans ht.word.symm)
    rwa [lowerKey, lowerKey, List.length_map, List.length_map] at hword
  obtain ⟨hword, h⟩ := List.append_inj h hlength
  obtain ⟨hgap₃, h⟩ := gap_mark_unique hs₃ ht₃ (by decide) (by decide) h
  obtain ⟨hgap₄, h⟩ := Text.run_unique hs₄ ht₄ (fun _ => head?_key hs _)
    (fun _ => head?_key ht _) h
  obtain ⟨hkey, h⟩ := Text.run_unique hs.key ht.key (fun _ => head?_tail hs₅)
    (fun _ => head?_tail ht₅) h
  obtain ⟨hgap₅, h⟩ := gap_mark_unique hs₅ ht₅ (by decide) (by decide) h
  obtain ⟨hgap₆, hvalue⟩ := Text.run_unique hs₆ ht₆ hs.value ht.value h
  cases s
  cases t
  simp only [mk.injEq]
  exact ⟨hgap₁, hgap₂, hword, hgap₃, hgap₄, hkey, hgap₅, hgap₆, hvalue⟩

end Tag.Spelling

/-! ## Lines with a tag -/

namespace Line

theorem exists_tag_of_classify {raw : Text}
    (h : (∃ value, classify raw = .name value) ∨ ∃ key value, classify raw = .tag key value) :
    ∃ t, Tag.ofLine? (Text.trim raw) = some t := by
  generalize hl : classify raw = l at h
  cases hl ▸ outcome raw with
  | tag ht => exact ⟨_, ht⟩
  | blank | control | comment => simp at h
  | code _ =>
    obtain ⟨code, hof | hof⟩ := ofCode_cases (Text.trim raw) <;> simp [hof] at h

theorem classify_of_spelling {raw : Text} {s : Tag.Spelling} (hs : s.Valid)
    (h : s.line = Text.trim raw) : classify raw = ofTag s.tag := by
  apply classify_of_tag
  rw [← h]
  exact Tag.ofLine?_line hs

end Line

/-! ## The laws -/

/-- The lines that are read as tags are those of the grammar, each can be taken apart in one way,
and the tag is the one that its parts give. So a line of a script is a tag if it fits the
grammar once it has been trimmed, and then its key tells whether it is a name. Every key
and every value without white space around it come back from the usual spelling. -/
theorem tags_are_read_as_they_are_spelled :
    (∀ line t, Tag.ofLine? line = some t ↔
      ∃ s : Tag.Spelling, s.Valid ∧ s.line = line ∧ s.tag = t) ∧
    (∀ s t : Tag.Spelling, s.Valid → t.Valid → s.line = t.line → s = t) ∧
    (∀ raw, ((∃ value, Line.classify raw = .name value) ∨
        ∃ key value, Line.classify raw = .tag key value) ↔
      ∃ s : Tag.Spelling, s.Valid ∧ s.gap₁ = [] ∧ s.line = Text.trim raw) ∧
    (∀ raw, ∀ s : Tag.Spelling, s.Valid → s.line = Text.trim raw →
      Line.classify raw = if Tag.lowerKey s.key = Line.nameKey then .name s.value
        else .tag (Tag.lowerKey s.key) s.value) ∧
    ∀ key value, key ≠ [] → (∀ c ∈ key, Tag.isKeyChar c = true) →
      (∀ c, value.head? = some c → Text.isBlank c = false) →
      (∀ c, value.getLast? = some c → Text.isSpace c = false) →
      Line.classify (Tag.line key value) =
        if Tag.lowerKey key = Line.nameKey then .name value
        else .tag (Tag.lowerKey key) value := by
  refine ⟨fun line t => ⟨Tag.spelling_of_ofLine?, ?_⟩, fun s t => Tag.Spelling.eq_of_line_eq,
    fun raw => ⟨?_, ?_⟩, fun raw s hs hline => Line.classify_of_spelling hs hline,
    fun key value => Line.classify_tagLine⟩
  · rintro ⟨s, hs, rfl, rfl⟩
    exact Tag.ofLine?_line hs
  · intro h
    obtain ⟨t, ht⟩ := Line.exists_tag_of_classify h
    obtain ⟨s, hs, hline, -⟩ := Tag.spelling_of_ofLine? ht
    refine ⟨s, hs, Line.gap₁_eq_nil hs fun c hc => ?_, hline⟩
    rw [hline] at hc
    exact Line.not_isBlank_head?_trim hc
  · rintro ⟨s, hs, -, hline⟩
    rw [Line.classify_of_spelling hs hline, Line.ofTag]
    split
    · exact Or.inl ⟨_, rfl⟩
    · exact Or.inr ⟨_, _, rfl⟩

/-- A name with wide white space around its line and a value that starts with a vertical tab,
which is no blank, and a key of hyphens with a value that looks like a tag line. -/
theorem a_spelled_name_and_a_key_of_hyphens_are_read :
    let raw := "\u3000-- tAg\t= NaMe\r:\n\x0bv: =--\u2003".toList
    let s : Tag.Spelling :=
      ⟨[], [' '], "tAg".toList, ['\t'], [' '], "NaMe".toList, ['\r'], ['\n'], "\x0bv: =--".toList⟩
    let value := "-- tag=name: a".toList
    s.Valid ∧ s.line = Text.trim raw ∧ Tag.ofLine? (Text.trim raw) = some s.tag ∧
      Line.classify raw = .name "\x0bv: =--".toList ∧
      (∀ t : Tag.Spelling, t.Valid → t.line = Text.trim raw → t = s) ∧
      Line.classify (Tag.line ['-', '-'] value) = .tag ['-', '-'] value := by
  intro raw s value
  have hs : s.Valid :=
    { gaps := List.all_eq_true.1 (by decide)
      word := by decide
      key_ne := by decide
      key := List.all_eq_true.1 (by decide)
      value := by rintro c ⟨⟩; rfl }
  have hline : s.line = Text.trim raw := by decide +kernel
  obtain ⟨hread, hunique, -, hclass, husual⟩ := tags_are_read_as_they_are_spelled
  refine ⟨hs, hline, (hread _ _).2 ⟨s, hs, hline, rfl⟩, hclass raw s hs hline,
    fun t ht hsame => hunique t s ht hs (hsame.trans hline.symm), ?_⟩
  have hkey : ∀ c ∈ ['-', '-'], Tag.isKeyChar c = true := List.all_eq_true.1 (by decide)
  have hhead : value.head? = some '-' := by decide
  have hlast : value.getLast? = some 'a' := by decide
  refine husual ['-', '-'] value (by decide) hkey (fun c hc => ?_) fun c hc => ?_
  · obtain rfl : '-' = c := Option.some.inj (hhead.symm.trans hc)
    rfl
  · obtain rfl : 'a' = c := Option.some.inj (hlast.symm.trans hc)
    rfl

end NamedSql
