-- The grammar of tag lines. A line is read as a tag if and only if it can be taken
-- apart into the nine parts of a spelling, and the tag is the one that the spelling
-- gives.
import NamedSql.Line.Classify
import NamedSql.Proofs.Trimming
import NamedSql.Proofs.Words

namespace NamedSql

/-! ## Blanks and keys -/

namespace Text

theorem not_isAlpha_of_isBlank {c : Char} (h : isBlank c = true) : c.isAlpha = false := by
  simp only [isBlank, Bool.or_eq_true, beq_iff_eq] at h
  rcases h with (((rfl | rfl) | rfl) | rfl) | rfl <;> decide

theorem not_isBlank_of_not_isSpace {c : Char} (h : isSpace c = false) : isBlank c = false := by
  rw [Bool.eq_false_iff]
  intro hblank
  rw [isSpace_of_isBlank c hblank] at h
  cases h

/-- A run of characters of one kind ends where one of another kind stands. -/
theorem run_split {p : Char → Bool} {run t : Text} (hrun : ∀ c ∈ run, p c = true)
    (ht : ∀ c, t.head? = some c → p c = false) :
    (run ++ t).takeWhile p = run ∧ (run ++ t).dropWhile p = t := by
  rw [List.takeWhile_append_of_pos hrun, List.dropWhile_append_of_pos hrun]
  cases t with
  | nil => simp
  | cons c cs => simp [ht c rfl]

theorem skipBlanks_append {gap t : Text} (hgap : ∀ c ∈ gap, isBlank c = true)
    (ht : ∀ c, t.head? = some c → isBlank c = false) : skipBlanks (gap ++ t) = t :=
  (run_split hgap ht).2

theorem skipBlanks_split (t : Text) :
    ∃ gap, t = gap ++ skipBlanks t ∧ (∀ c ∈ gap, isBlank c = true) ∧
      ∀ c, (skipBlanks t).head? = some c → isBlank c = false := by
  refine ⟨t.takeWhile isBlank, List.takeWhile_append_dropWhile.symm, ?_, ?_⟩
  · intro c hc
    exact List.mem_takeWhile_imp hc
  · intro c hc
    have hnot := List.head?_dropWhile_not isBlank t
    unfold skipBlanks at hc
    simpa [hc] using hnot

end Text

namespace Tag

theorem not_isBlank_of_isKeyChar {c : Char} (h : isKeyChar c = true) : Text.isBlank c = false := by
  rw [Bool.eq_false_iff]
  intro hblank
  simp only [Text.isBlank, Bool.or_eq_true, beq_iff_eq] at hblank
  rcases hblank with (((rfl | rfl) | rfl) | rfl) | rfl <;> revert h <;> decide

theorem isKeyChar_toLower {c : Char} (h : isKeyChar c = true) : isKeyChar c.toLower = true := by
  by_cases hup : c.isUpper = true
  · have halnum : c.toLower.isAlphanum = (c.toLower.isAlpha || c.toLower.isDigit) := rfl
    rw [isKeyChar, halnum, Char.isAlpha_toLower_eq_isAlpha, Char.isAlpha, hup]
    rfl
  · rwa [Char.toLower_eq_of_not_isUpper hup]

/-- However a word is spelled, it starts with no blank. -/
theorem head?_of_lowerKey_eq {word s : Text}
    (hword : word.all (fun w => !Text.isBlank w.toLower) = true) (hne : word ≠ [])
    (h : lowerKey s = lowerKey word) (r : Text) {c : Char} (hc : (s ++ r).head? = some c) :
    Text.isBlank c = false := by
  cases word with
  | nil => exact absurd rfl hne
  | cons w ws =>
    cases s with
    | nil => simp [lowerKey] at h
    | cons d ds =>
      obtain ⟨hd, -⟩ := List.cons.inj h
      obtain rfl : d = c := by simpa using hc
      rw [Bool.eq_false_iff]
      intro hblank
      have hsame := Char.toLower_eq_of_not_isUpper
        (Text.not_isUpper_of_not_isAlpha (Text.not_isAlpha_of_isBlank hblank))
      rw [← hsame, hd] at hblank
      simp [hblank] at hword

/-- The next part of a tag line is a gap and then the word, however it is spelled. -/
theorem expect?_eq_some_iff {word t r : Text}
    (hword : word.all (fun w => !Text.isBlank w.toLower) = true) (hne : word ≠ []) :
    expect? word t = some r ↔
      ∃ gap s, t = gap ++ (s ++ r) ∧ (∀ c ∈ gap, Text.isBlank c = true) ∧
        lowerKey s = lowerKey word := by
  unfold expect?
  rw [Text.dropWord?_eq_some_iff]
  constructor
  · rintro ⟨s, hs, hlower⟩
    obtain ⟨gap, hsplit, hgap, -⟩ := Text.skipBlanks_split t
    rw [hs] at hsplit
    exact ⟨gap, s, hsplit, hgap, hlower⟩
  · rintro ⟨gap, s, rfl, hgap, hlower⟩
    have hhead := fun c => head?_of_lowerKey_eq hword hne hlower r (c := c)
    exact ⟨s, Text.skipBlanks_append hgap hhead, hlower⟩

/-- A word without letters and blanks. -/
def isMark (word : Text) : Bool := word.all fun w => !w.isAlpha && !Text.isBlank w

theorem expect?_mark {word t r : Text} (hmark : isMark word = true) (hne : word ≠ []) :
    expect? word t = some r ↔
      ∃ gap, t = gap ++ (word ++ r) ∧ ∀ c ∈ gap, Text.isBlank c = true := by
  have hboth : ∀ w ∈ word, w.isAlpha = false ∧ Text.isBlank w = false := by
    intro w hw
    simpa using List.all_eq_true.1 hmark w hw
  have hsame : ∀ w ∈ word, w.toLower = w := fun w hw =>
    Char.toLower_eq_of_not_isUpper (Text.not_isUpper_of_not_isAlpha (hboth w hw).1)
  have hword : word.all (fun w => !Text.isBlank w.toLower) = true := by
    rw [List.all_eq_true]
    intro w hw
    rw [hsame w hw, (hboth w hw).2]
    rfl
  have hlow : lowerKey word = word := by
    unfold lowerKey
    conv => rhs; rw [← List.map_id word]
    exact List.map_congr_left hsame
  rw [expect?_eq_some_iff hword hne, hlow]
  constructor
  · rintro ⟨gap, s, rfl, hgap, hs⟩
    obtain rfl := Text.map_toLower_eq (fun w hw => (hboth w hw).1) hs
    exact ⟨gap, rfl, hgap⟩
  · rintro ⟨gap, rfl, hgap⟩
    exact ⟨gap, word, rfl, hgap, hlow⟩

/-! ## The grammar -/

/-- The parts of a tag line, as they are met one behind the other. -/
theorem ofLine?_eq_some {line : Text} {t : Tag} :
    ofLine? line = some t ↔ ∃ afterDashes afterWord afterEquals afterColon,
      expect? ['-', '-'] line = some afterDashes ∧
      expect? ['t', 'a', 'g'] afterDashes = some afterWord ∧
      expect? ['='] afterWord = some afterEquals ∧
      (Text.skipBlanks afterEquals).takeWhile isKeyChar ≠ [] ∧
      expect? [':'] ((Text.skipBlanks afterEquals).dropWhile isKeyChar) = some afterColon ∧
      ⟨lowerKey ((Text.skipBlanks afterEquals).takeWhile isKeyChar),
        Text.skipBlanks afterColon⟩ = t := by
  simp only [ofLine?, Option.bind_eq_bind, Option.bind_eq_some_iff]
  constructor
  · rintro ⟨a, ha, w, hw, e, he, hrest⟩
    split at hrest
    · simp at hrest
    · rename_i hkey
      obtain ⟨c, hc, ht⟩ := Option.bind_eq_some_iff.1 hrest
      exact ⟨a, w, e, c, ha, hw, he, by simpa using hkey, hc, Option.some.inj ht⟩
  · rintro ⟨a, w, e, c, ha, hw, he, hkey, hc, rfl⟩
    refine ⟨a, ha, w, hw, e, he, ?_⟩
    rw [if_neg (by simpa using hkey)]
    exact Option.bind_eq_some_iff.2 ⟨c, hc, rfl⟩

namespace Spelling

/-- The part of the line behind the key. -/
def tail (s : Spelling) : Text := s.gap₅ ++ ([':'] ++ (s.gap₆ ++ s.value))

theorem line_eq (s : Spelling) :
    s.line = s.gap₁ ++ (['-', '-'] ++ (s.gap₂ ++ (s.word ++ (s.gap₃ ++ (['='] ++
      (s.gap₄ ++ (s.key ++ s.tail))))))) := by
  simp [line, tail]

theorem head?_tail {s : Spelling} (hgap : ∀ c ∈ s.gap₅, Text.isBlank c = true) {c : Char}
    (hc : s.tail.head? = some c) : isKeyChar c = false := by
  unfold tail at hc
  rw [Bool.eq_false_iff]
  intro hkey
  cases h : s.gap₅ with
  | nil =>
    obtain rfl : ':' = c := by simpa [h] using hc
    revert hkey
    decide
  | cons b bs =>
    obtain rfl : b = c := by simpa [h] using hc
    have hblank := hgap b (by simp [h])
    rw [not_isBlank_of_isKeyChar hkey] at hblank
    exact Bool.false_ne_true hblank

theorem Valid.each_gap {s : Spelling} (hs : s.Valid) :
    (∀ c ∈ s.gap₁, Text.isBlank c = true) ∧ (∀ c ∈ s.gap₂, Text.isBlank c = true) ∧
      (∀ c ∈ s.gap₃, Text.isBlank c = true) ∧ (∀ c ∈ s.gap₄, Text.isBlank c = true) ∧
      (∀ c ∈ s.gap₅, Text.isBlank c = true) ∧ ∀ c ∈ s.gap₆, Text.isBlank c = true := by
  have hgaps := hs.gaps
  simp only [List.mem_append, or_imp, forall_and] at hgaps
  simpa only [and_assoc] using hgaps

theorem head?_word {s : Spelling} (hs : s.Valid) (r : Text) {c : Char}
    (h : (s.word ++ r).head? = some c) : Text.isBlank c = false := by
  have hword : lowerKey s.word = lowerKey ['t', 'a', 'g'] := hs.word
  exact head?_of_lowerKey_eq (by decide) (by decide) hword r h

theorem head?_key {s : Spelling} (hs : s.Valid) (r : Text) {c : Char}
    (h : (s.key ++ r).head? = some c) : Text.isBlank c = false := by
  obtain ⟨d, ds, hd⟩ := List.exists_cons_of_ne_nil hs.key_ne
  obtain rfl : d = c := by simpa [hd] using h
  exact not_isBlank_of_isKeyChar (hs.key d (by simp [hd]))

end Spelling

theorem ofLine?_line {s : Spelling} (h : s.Valid) : ofLine? s.line = some s.tag := by
  obtain ⟨hgap₁, hgap₂, hgap₃, hgap₄, hgap₅, hgap₆⟩ := h.each_gap
  obtain ⟨htake, hdrop⟩ := Text.run_split h.key fun c => Spelling.head?_tail hgap₅
  have hskip : Text.skipBlanks (s.gap₄ ++ (s.key ++ s.tail)) = s.key ++ s.tail :=
    Text.skipBlanks_append hgap₄ fun c => Spelling.head?_key h s.tail
  rw [ofLine?_eq_some]
  refine ⟨s.gap₂ ++ (s.word ++ (s.gap₃ ++ (['='] ++ (s.gap₄ ++ (s.key ++ s.tail))))),
    s.gap₃ ++ (['='] ++ (s.gap₄ ++ (s.key ++ s.tail))), s.gap₄ ++ (s.key ++ s.tail),
    s.gap₆ ++ s.value, ?_, ?_, ?_, ?_, ?_, ?_⟩
  · rw [expect?_mark (by decide) (by decide)]
    exact ⟨s.gap₁, s.line_eq, hgap₁⟩
  · rw [expect?_eq_some_iff (by decide) (by decide)]
    exact ⟨s.gap₂, s.word, rfl, hgap₂, h.word⟩
  · rw [expect?_mark (by decide) (by decide)]
    exact ⟨s.gap₃, rfl, hgap₃⟩
  · rw [hskip, htake]
    exact h.key_ne
  · rw [hskip, hdrop, expect?_mark (by decide) (by decide)]
    exact ⟨s.gap₅, rfl, hgap₅⟩
  · rw [hskip, htake, Text.skipBlanks_append hgap₆ h.value]
    rfl

/-- Every line that is read as a tag is a spelling of it. -/
theorem spelling_of_ofLine? {line : Text} {t : Tag} (h : ofLine? line = some t) :
    ∃ s : Spelling, s.Valid ∧ s.line = line ∧ s.tag = t := by
  obtain ⟨a, w, e, c, ha, hw, he, hkey, hc, rfl⟩ := ofLine?_eq_some.1 h
  rw [expect?_mark (by decide) (by decide)] at ha he hc
  rw [expect?_eq_some_iff (by decide) (by decide)] at hw
  obtain ⟨gap₁, rfl, hgap₁⟩ := ha
  obtain ⟨gap₂, word, rfl, hgap₂, hword⟩ := hw
  obtain ⟨gap₃, rfl, hgap₃⟩ := he
  obtain ⟨gap₄, hfrom, hgap₄, -⟩ := Text.skipBlanks_split e
  obtain ⟨gap₅, hafter, hgap₅⟩ := hc
  obtain ⟨gap₆, hvalue, hgap₆, hhead⟩ := Text.skipBlanks_split c
  generalize Text.skipBlanks e = fromKey at *
  generalize Text.skipBlanks c = value at *
  refine ⟨⟨gap₁, gap₂, word, gap₃, gap₄, fromKey.takeWhile isKeyChar, gap₅, gap₆, value⟩,
    ⟨?_, hword, hkey, fun d hd => List.mem_takeWhile_imp hd, hhead⟩, ?_, rfl⟩
  · simp only [List.mem_append, or_imp, forall_and]
    exact ⟨⟨⟨⟨⟨hgap₁, hgap₂⟩, hgap₃⟩, hgap₄⟩, hgap₅⟩, hgap₆⟩
  · have hkeyed : fromKey.takeWhile isKeyChar ++ (gap₅ ++ ([':'] ++ (gap₆ ++ value))) = fromKey := by
      rw [← hvalue, ← hafter, List.takeWhile_append_dropWhile]
    rw [hfrom, Spelling.line_eq, Spelling.tail, hkeyed]

/-! ## The usual spelling -/

/-- The usual spelling of a tag. Where there is no value, the blank before it is gone. -/
def usualSpelling (key value : Text) : Spelling :=
  ⟨[], [' '], ['t', 'a', 'g'], [], [], key, [], if value.isEmpty then [] else [' '], value⟩

theorem valid_usualSpelling {key value : Text} (hne : key ≠ [])
    (hkey : ∀ c ∈ key, isKeyChar c = true)
    (hhead : ∀ c, value.head? = some c → Text.isBlank c = false) :
    (usualSpelling key value).Valid := by
  refine ⟨?_, rfl, hne, hkey, hhead⟩
  unfold usualSpelling
  split <;> simp [Text.isBlank]

theorem line_eq_cons (key value : Text) :
    line key value = '-' :: (['-', ' ', 't', 'a', 'g', '='] ++ (key ++ ':' :: ' ' :: value)) := by
  have hmark : "-- tag=".toList = ['-', '-', ' ', 't', 'a', 'g', '='] := by rfl
  unfold line
  rw [hmark]
  simp only [List.append_assoc, List.cons_append, List.nil_append]

/-- Only the blank before a missing value is trimmed. -/
theorem trim_line {key value : Text}
    (hlast : ∀ c, value.getLast? = some c → Text.isSpace c = false) :
    Text.trim (line key value) = (usualSpelling key value).line := by
  by_cases hvalue : value = []
  · subst hvalue
    have hline : line key [] =
        '-' :: (['-', ' ', 't', 'a', 'g', '='] ++ key) ++ [':'] ++ [' '] := by
      simp [line_eq_cons]
    have hspace : ∀ c ∈ [' '], Text.isSpace c = true := by
      intro c hc
      rw [List.mem_singleton.1 hc]
      decide
    have htrimmed : Text.Trimmed ('-' :: (['-', ' ', 't', 'a', 'g', '='] ++ key) ++ [':']) := by
      refine Text.trimmed_concat ?_ (by decide)
      intro c hc
      obtain rfl := Option.some.inj hc
      decide
    rw [hline, Text.trim_append_spaces _ hspace, htrimmed.trim_eq]
    simp [usualSpelling, Spelling.line]
  · have htrimmed : Text.Trimmed (line key value) := by
      constructor
      · intro c hc
        rw [line_eq_cons] at hc
        obtain rfl := Option.some.inj hc
        decide
      · intro c hc
        unfold line at hc
        rw [List.getLast?_append_of_ne_nil _ hvalue] at hc
        exact hlast c hc
    rw [htrimmed.trim_eq]
    simp [usualSpelling, Spelling.line, line_eq_cons, hvalue]

/-- A character stands in the usual spelling of a tag only where the tag has it. -/
theorem not_mem_line {c : Char} (hmark : c ∉ ['-', ' ', 't', 'a', 'g', '=', ':'])
    (hc : isKeyChar c = false) {key value : Text} (hkey : ∀ d ∈ key, isKeyChar d = true)
    (hvalue : c ∉ value) : c ∉ line key value := by
  have hnot : c ∉ key := by
    intro hmem
    rw [hkey c hmem] at hc
    cases hc
  rw [line_eq_cons]
  simp only [List.mem_cons, List.mem_append, List.not_mem_nil, or_false, not_or] at hmark ⊢
  simp [hmark, hnot, hvalue]

theorem lineFeed_not_mem_line {key value : Text} (hkey : ∀ c ∈ key, isKeyChar c = true)
    (hvalue : '\n' ∉ value) : '\n' ∉ line key value :=
  not_mem_line (by decide) (by decide) hkey hvalue

end Tag

end NamedSql
