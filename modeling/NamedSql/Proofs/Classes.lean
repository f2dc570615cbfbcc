-- How a line comes to its class. After trimming there are five ways to go, and only
-- two of them leave a part of the line: a tag leaves its key and value, and code
-- leaves what stands before its comment or terminator. What is left of code is trimmed
-- and starts no control command. If no block comment opens in it either, it is plain: it
-- holds no mark at all, and it stays so behind other plain code, or escaped.
import NamedSql.Proofs.Escaping
import NamedSql.Proofs.TagLines

namespace NamedSql

namespace Line

/-! ## The pure model -/

/-- The line is neither a control command, nor a tag, nor a comment. -/
structure CodeLine (line : Text) : Prop where
  ne_nil : line ≠ []
  control : startsControl line = false
  tag : Tag.ofLine? line = none
  dashes : ¬ ['-', '-'] <+: line

/-- What a line comes to, once it has been trimmed. -/
inductive Outcome (line : Text) : Line → Prop where
  | blank : line = [] → Outcome line .blank
  | control : startsControl line = true → Outcome line .control
  | tag {t : Tag} : Tag.ofLine? line = some t → Outcome line (ofTag t)
  | comment : Tag.ofLine? line = none → ['-', '-'] <+: line → Outcome line .comment
  | code : CodeLine line → Outcome line (ofCode line)

theorem outcome (raw : Text) : Outcome (Text.trim raw) (classify raw) := by
  unfold classify ofTrimmed
  split
  · rename_i hnil
    exact .blank (List.isEmpty_iff.1 hnil)
  · rename_i hne
    split
    · rename_i hcontrol
      exact .control hcontrol
    · rename_i hcontrol
      split
      · rename_i t ht
        exact .tag ht
      · rename_i htag
        split
        · rename_i hdashes
          exact .comment htag (List.isPrefixOf_iff_prefix.1 hdashes)
        · rename_i hdashes
          refine .code ⟨?_, Bool.eq_false_iff.2 hcontrol, htag, ?_⟩
          · simpa using hne
          · simpa using hdashes

theorem classify_of_codeLine {raw : Text} (h : CodeLine (Text.trim raw)) :
    classify raw = ofCode (Text.trim raw) := by
  unfold classify ofTrimmed
  rw [if_neg (by simpa using h.ne_nil), if_neg (by simp [h.control]), h.tag]
  simp [h.dashes]

/-! ## Tags -/

theorem startsControl_of_dashes {line : Text} (h : ['-', '-'] <+: line) :
    startsControl line = false := by
  obtain ⟨r, rfl⟩ := h
  simp [startsControl, controlWords, Text.alike]

theorem gap₁_eq_nil {s : Tag.Spelling} (hs : s.Valid)
    (hhead : ∀ c, s.line.head? = some c → Text.isBlank c = false) : s.gap₁ = [] := by
  rw [Tag.Spelling.line_eq] at hhead
  cases hgap : s.gap₁ with
  | nil => rfl
  | cons b bs =>
    have hblank := hs.gaps b (by simp [hgap])
    rw [hhead b (by simp [hgap])] at hblank
    exact absurd hblank Bool.false_ne_true

theorem dashes_of_ofLine? {line : Text} {t : Tag} (ht : Tag.ofLine? line = some t)
    (hhead : ∀ c, line.head? = some c → Text.isBlank c = false) : ['-', '-'] <+: line := by
  obtain ⟨s, hs, rfl, -⟩ := Tag.spelling_of_ofLine? ht
  have hgap := gap₁_eq_nil hs hhead
  rw [Tag.Spelling.line_eq, hgap]
  exact List.prefix_append _ _

theorem not_isBlank_head?_trim {raw : Text} {c : Char} (h : (Text.trim raw).head? = some c) :
    Text.isBlank c = false := Text.not_isBlank_of_not_isSpace ((Text.trimmed_trim raw).head c h)

/-- A line that starts neither with white space, nor with dashes, nor with a control word is
code. -/
theorem codeLine_of_head {line : Text} (hne : line ≠ [])
    (hhead : ∀ c, line.head? = some c → Text.isSpace c = false)
    (hcontrol : startsControl line = false) (hdashes : ¬ ['-', '-'] <+: line) : CodeLine line where
  ne_nil := hne
  control := hcontrol
  tag := by
    cases htag : Tag.ofLine? line with
    | none => rfl
    | some t =>
      have hblank := fun c hc => Text.not_isBlank_of_not_isSpace (hhead c hc)
      exact absurd (dashes_of_ofLine? htag hblank) hdashes
  dashes := hdashes

/-- A line with a tag is never taken for a control command. -/
theorem classify_of_tag {raw : Text} {t : Tag} (h : Tag.ofLine? (Text.trim raw) = some t) :
    classify raw = ofTag t := by
  have hdashes := dashes_of_ofLine? h fun c => not_isBlank_head?_trim
  have hne : Text.trim raw ≠ [] := by
    intro hnil
    simp [hnil] at hdashes
  unfold classify ofTrimmed
  rw [if_neg (by simpa using hne), if_neg (by simp [startsControl_of_dashes hdashes]), h]

/-- The usual spelling of a tag is read as that tag. -/
theorem classify_tagLine {key value : Text} (hne : key ≠ [])
    (hkey : ∀ c ∈ key, Tag.isKeyChar c = true)
    (hhead : ∀ c, value.head? = some c → Text.isBlank c = false)
    (hlast : ∀ c, value.getLast? = some c → Text.isSpace c = false) :
    classify (Tag.line key value) = ofTag ⟨Tag.lowerKey key, value⟩ := by
  apply classify_of_tag
  rw [Tag.trim_line hlast]
  exact Tag.ofLine?_line (Tag.valid_usualSpelling hne hkey hhead)

end Line

/-! ## Plain code -/

namespace Line

/-- The code that a line leaves. -/
def code? : Line → Option Text
  | .fragment code | .terminated code => some code
  | .blank | .control | .comment | .name _ | .tag _ _ => none

/-- Code in which nothing is read as anything but code. -/
structure PlainCode (t : Text) : Prop where
  trimmed : Text.Trimmed t
  control : startsControl t = false
  terminator : ';' ∉ t
  dashes : ¬ ['-', '-'] <:+: t
  block : ¬ ['/', '*'] <:+: t

end Line

/-! ## What comments cover -/

namespace Comments

theorem code_isPrefix (c : Comments) (line : Text) : c.code line <+: line := by
  unfold code
  split
  · exact (Text.trimEnd_isPrefix _).trans (List.take_prefix _ _)
  · exact List.prefix_refl _

end Comments

/-! ## What a line leaves -/

namespace Line

theorem code?_ofTag (t : Tag) : (ofTag t).code? = none := by
  unfold ofTag
  split <;> rfl

theorem ofCode_cases (line : Text) :
    ∃ code, ofCode line = .fragment code ∨ ofCode line = .terminated code := by
  unfold ofCode
  dsimp only
  split
  · exact ⟨_, Or.inr rfl⟩
  · exact ⟨_, Or.inl rfl⟩

/-- The code that a line leaves ends before its comment. -/
theorem code?_ofCode {line code : Text} (hline : Text.Trimmed line)
    (h : (ofCode line).code? = some code) :
    code <+: (Comments.scan line).code line ∧ Text.Trimmed code := by
  unfold ofCode at h
  dsimp only at h
  split at h
  · rename_i i hi
    obtain rfl := Option.some.inj h
    have hcut := List.take_prefix i ((Comments.scan line).code line)
    exact ⟨(Text.trimEnd_isPrefix _).trans hcut,
      Text.trimmed_trimEnd (hcut.trans (Comments.code_isPrefix _ _)) hline.head⟩
  · obtain rfl := Option.some.inj h
    refine ⟨List.prefix_refl _, ?_⟩
    unfold Comments.code
    split
    · exact Text.trimmed_trimEnd (List.take_prefix _ _) hline.head
    · exact hline

theorem codeLine_of_code? {raw code : Text} (h : (classify raw).code? = some code) :
    CodeLine (Text.trim raw) ∧ (ofCode (Text.trim raw)).code? = some code := by
  generalize hl : classify raw = l at h
  cases hl ▸ outcome raw with
  | code hcode => exact ⟨hcode, h⟩
  | tag ht => simp [code?_ofTag] at h
  | _ => simp [code?] at h

theorem code_isPrefix {raw code : Text} (h : (classify raw).code? = some code) :
    code <+: Text.trim raw := by
  obtain ⟨-, h⟩ := codeLine_of_code? h
  exact (code?_ofCode (Text.trimmed_trim raw) h).1.trans (Comments.code_isPrefix _ _)

theorem trimmed_code {raw code : Text} (h : (classify raw).code? = some code) :
    Text.Trimmed code := by
  obtain ⟨-, h⟩ := codeLine_of_code? h
  exact (code?_ofCode (Text.trimmed_trim raw) h).2

theorem startsControl_of_isPrefix {s t : Text} (hs : s <+: t) (h : startsControl t = false) :
    startsControl s = false := by
  unfold startsControl at h ⊢
  rw [List.any_eq_false] at h ⊢
  intro word hword hstart
  exact h word hword (Text.startsWithWord_of_isPrefix hs hstart)

/-! ## What stays plain -/

/-- A character that is in no control word ends the words at the head of a line. -/
theorem startsControl_append_cons {c : Char} (t r : Text)
    (hc : controlWords.all (Text.avoids · c) = true) :
    startsControl (t ++ c :: r) = startsControl t := by
  unfold startsControl
  rw [Bool.eq_iff_iff, List.any_eq_true, List.any_eq_true]
  constructor
  · rintro ⟨word, hword, h⟩
    rw [Text.startsWithWord_append_cons t r (List.all_eq_true.1 hc word hword)] at h
    exact ⟨word, hword, h⟩
  · rintro ⟨word, hword, h⟩
    exact ⟨word, hword, Text.startsWithWord_of_isPrefix (List.prefix_append _ _) h⟩

theorem plainCode_nil : PlainCode [] where
  trimmed := Text.trimmed_nil
  control := by decide
  terminator := by decide
  dashes := by decide
  block := by decide

theorem PlainCode.join {s t : Text} (hs : PlainCode s) (ht : PlainCode t) (hsne : s ≠ [])
    (htne : t ≠ []) : PlainCode (s ++ ' ' :: t) where
  trimmed := hs.trimmed.append_cons ht.trimmed hsne htne
  control := by
    rw [startsControl_append_cons s t (by decide)]
    exact hs.control
  terminator := by
    simp [hs.terminator, ht.terminator]
  dashes := by
    rw [Text.isInfix_append_cons (by decide) (by decide)]
    exact not_or.2 ⟨hs.dashes, ht.dashes⟩
  block := by
    rw [Text.isInfix_append_cons (by decide) (by decide)]
    exact not_or.2 ⟨hs.block, ht.block⟩

/-- Plain code put together is plain. -/
theorem plainCode_intercalate {codes : List Text} (h : ∀ code ∈ codes, PlainCode code ∧ code ≠ []) :
    PlainCode (List.intercalate [' '] codes) ∧
      (codes ≠ [] → List.intercalate [' '] codes ≠ []) := by
  induction codes with
  | nil => exact ⟨plainCode_nil, fun hne => absurd rfl hne⟩
  | cons code rest ih =>
    obtain ⟨hcode, hne⟩ := h code List.mem_cons_self
    obtain ⟨hrest, hrestne⟩ := ih fun x hx => h x (List.mem_cons_of_mem _ hx)
    cases rest with
    | nil => simpa using ⟨hcode, hne⟩
    | cons next more =>
      rw [List.intercalate_cons_cons, List.append_assoc, List.singleton_append]
      exact ⟨hcode.join hrest hne (hrestne (by simp)), fun _ => by simp⟩

theorem PlainCode.escape {t : Text} (h : PlainCode t) : PlainCode (Colons.escape t) where
  trimmed := Colons.trimmed_escape h.trimmed
  control := by
    have hcontrol := h.control
    unfold startsControl at hcontrol ⊢
    rwa [Colons.any_startsWithWord_escape (by decide)]
  terminator := by
    rw [Colons.mem_escape]
    exact h.terminator
  dashes := by
    rw [Colons.isInfix_escape (by decide)]
    exact h.dashes
  block := by
    rw [Colons.isInfix_escape (by decide)]
    exact h.block

end Line

end NamedSql
