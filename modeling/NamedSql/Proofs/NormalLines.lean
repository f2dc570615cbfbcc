-- Lines in normal form. What a line of code leaves has no mark and leaves no block comment
-- open before a terminator, so it is read as itself from a line of its own, with its
-- terminator behind it or without one.
import NamedSql.Proofs.FirstMark

namespace NamedSql

/-! ## Texts without marks -/

namespace Line

theorem marks_of_isPrefix {s line : Text} (hs : s <+: line)
    (h : ∀ m, (marks line).head? = some m → s.length ≤ m.place) : marks s = [] := by
  cases hmarks : marks s with
  | nil => rfl
  | cons m more =>
    have hfirst : (marks s).head? = some m := by rw [hmarks]; rfl
    obtain ⟨t, rfl⟩ := hs
    have hle := h m (head?_marksFrom_append hfirst t)
    have hlt := place_lt_length hfirst
    omega

theorem classify_of_marks_nil {t : Text} (htrimmed : Text.Trimmed t) (hcode : CodeLine t)
    (hmarks : marks t = []) : classify t = .fragment t := by
  have htrim := htrimmed.trim_eq
  rw [classify_eq_ofFirst (by rwa [htrim]), htrim, hmarks]
  rfl

theorem classify_ended_of_marks_nil {t : Text} (htrimmed : Text.Trimmed t)
    (hcode : CodeLine (t ++ [';'])) (hmarks : marks t = []) (hmode : modeAfter .code t ≠ .block) :
    classify (t ++ [';']) = .terminated t := by
  have htrim := (Text.trimmed_concat htrimmed.head (by decide)).trim_eq (t := t ++ [';'])
  have hmet : marks (t ++ [';']) = [.terminator t.length] := by
    rw [marks, marksFrom_append_of_nil hmarks (startsApart_terminator []), Nat.zero_add]
    cases hafter : modeAfter .code t with
    | block => exact absurd hafter hmode
    | code | codeBehind => rfl
  rw [classify_eq_ofFirst (by rwa [htrim]), htrim, hmet, List.head?_cons, ofFirst, List.take_left,
    htrimmed.trimEnd_eq]

/-- No block comment is open before a terminator that is met. -/
theorem modeAfter_of_terminator {t w rest : Text} (hmarks : marks t = [])
    (hw : ∀ c ∈ w, Text.isSpace c = true)
    (h : (marks (t ++ (w ++ ';' :: rest))).head? = some (.terminator (t.length + w.length))) :
    modeAfter .code t ≠ .block := by
  intro hblock
  have hapart := startsApart_spaces_append hw fun _ => startsApart_terminator rest
  rw [marks, marksFrom_append_of_nil hmarks hapart, hblock, marksFrom_spaces_append _ _ hw,
    marksFrom_block_cons, if_neg] at h
  · -- In a block comment the terminator is passed over, so what is met stands behind it.
    obtain ⟨k, hk, -⟩ := mem_marksFrom (List.mem_of_mem_head? h)
    simp only [ScanMark.place] at hk
    omega
  · rw [pair_isPrefix_cons]
    exact fun hpair => absurd hpair.1 (by decide)

/-! ## Plain code -/

/-- Nothing is met in plain code, since no word of a mark stands in it. -/
theorem PlainCode.marks_eq_nil {t : Text} (h : PlainCode t) : marks t = [] := by
  rw [List.eq_nil_iff_forall_not_mem]
  intro m hm
  obtain ⟨k, -, hword⟩ := mem_marksFrom hm
  have hstands := hword.isInfix.trans (List.drop_suffix k t).isInfix
  cases m with
  | terminator i => exact h.terminator (hstands.subset List.mem_cons_self)
  | dashes d => exact h.dashes hstands

theorem avoids_marks {i : Nat} {t : Text} (hmarks : marksFrom .code i t = [])
    (hblock : ¬ ['/', '*'] <:+: t) : ';' ∉ t ∧ ¬ ['-', '-'] <:+: t := by
  induction t generalizing i with
  | nil => decide
  | cons c cs ih =>
    rw [List.infix_cons_iff, not_or] at hblock
    rw [marksFrom_code_cons, if_neg hblock.1] at hmarks
    split at hmarks
    · cases hmarks
    · rename_i hdashes
      split at hmarks
      · cases hmarks
      · rename_i hterm
        obtain ⟨hrest, hmore⟩ := ih hmarks hblock.2
        rw [List.infix_cons_iff, not_or, List.mem_cons, not_or]
        exact ⟨⟨Ne.symm hterm, hrest⟩, hdashes, hmore⟩

theorem PlainCode.closed {t : Text} (h : PlainCode t) : Comments.Closed t := by
  intro start hstart
  have hword := Text.isPrefix_drop_of_mem_places (Text.mem_places_of_place? hstart)
  exact absurd (hword.isInfix.trans (List.drop_suffix _ _).isInfix) h.block

/-- Plain code with a terminator behind it comes back whole. -/
theorem classify_ended {t : Text} (h : PlainCode t) : classify (t ++ [';']) = .terminated t := by
  apply classify_ended_of_marks_nil h.trimmed _ h.marks_eq_nil (modeAfter_code h.closed)
  apply codeLine_of_head (by simp) (Text.trimmed_concat h.trimmed.head (by decide)).head
  · rw [startsControl_append_cons t [] (by decide)]
    exact h.control
  · intro hdashes
    have hstands := hdashes.isInfix
    rw [Text.isInfix_append_cons (by decide) (by decide)] at hstands
    exact hstands.elim h.dashes (by decide)

/-! ## What a line leaves -/

theorem length_trimEnd_take_le (line : Text) (i : Nat) :
    (Text.trimEnd (line.take i)).length ≤ i :=
  Nat.le_trans (Text.trimEnd_isPrefix _).length_le (List.length_take_le _ _)

theorem marks_code {raw code : Text} (h : (classify raw).code? = some code) :
    marks code = [] := by
  apply marks_of_isPrefix (code_isPrefix h)
  intro m hm
  cases hclass : classify raw with
  | terminated c =>
    obtain rfl : c = code := by simpa [hclass, code?] using h
    obtain ⟨-, i, hfirst, rfl⟩ := first_of_terminated hclass
    obtain rfl := Option.some.inj (hfirst.symm.trans hm)
    exact length_trimEnd_take_le _ _
  | fragment c =>
    obtain rfl : c = code := by simpa [hclass, code?] using h
    obtain ⟨-, ⟨d, hfirst, rfl⟩ | ⟨hnone, -⟩⟩ := first_of_fragment hclass
    · obtain rfl := Option.some.inj (hfirst.symm.trans hm)
      exact length_trimEnd_take_le _ _
    · rw [hnone] at hm
      cases hm
  | _ => simp [hclass, code?] at h

theorem classify_code {raw code : Text} (h : (classify raw).code? = some code)
    (hne : code ≠ []) : classify code = .fragment code := by
  have hline := (codeLine_of_code? h).1
  have hprefix := code_isPrefix h
  have htrimmed := trimmed_code h
  apply classify_of_marks_nil htrimmed _ (marks_code h)
  exact codeLine_of_head hne htrimmed.head (startsControl_of_isPrefix hprefix hline.control)
    fun hdashes => hline.dashes (hdashes.trans hprefix)

/-- Code of a line is plain if no block comment opens in it. -/
theorem plainCode_of_code? {raw code : Text} (h : (classify raw).code? = some code)
    (hblock : ¬ ['/', '*'] <:+: code) : PlainCode code where
  trimmed := trimmed_code h
  control := startsControl_of_isPrefix (code_isPrefix h) (codeLine_of_code? h).1.control
  terminator := (avoids_marks (marks_code h) hblock).1
  dashes := (avoids_marks (marks_code h) hblock).2
  block := hblock

theorem ne_nil_of_fragment {raw code : Text} (h : classify raw = .fragment code) : code ≠ [] := by
  obtain ⟨hline, ⟨d, hfirst, rfl⟩ | ⟨-, rfl⟩⟩ := first_of_fragment h
  · intro hnil
    obtain ⟨w, hsplit, hw⟩ := Text.trimEnd_split ((Text.trim raw).take d)
    obtain ⟨rest, hrest⟩ := split_at_mark hfirst
    rw [hnil, List.nil_append] at hsplit
    rw [ScanMark.place, hsplit] at hrest
    cases w with
    | nil => exact hline.dashes ⟨rest, hrest.symm⟩
    | cons c cs =>
      have hhead := (Text.trimmed_trim raw).head c (by rw [hrest]; rfl)
      rw [hw c List.mem_cons_self] at hhead
      cases hhead
  · exact hline.ne_nil

theorem classify_code_ended {raw code : Text} (h : classify raw = .terminated code) :
    classify (code ++ [';']) = .terminated code := by
  have hcode? := congrArg code? h
  have hprefix := code_isPrefix hcode?
  have hmarks := marks_code hcode?
  obtain ⟨hline, i, hfirst, hcut⟩ := first_of_terminated h
  apply classify_ended_of_marks_nil (trimmed_code hcode?) _ hmarks
  · obtain ⟨w, hsplit, hw⟩ := Text.trimEnd_split ((Text.trim raw).take i)
    obtain ⟨rest, hrest⟩ := split_at_mark hfirst
    rw [← hcut] at hsplit
    have hplace : i = code.length + w.length := by
      have hlt := place_lt_length hfirst
      have hlen := congrArg List.length hsplit
      rw [List.length_take, List.length_append] at hlen
      simp only [ScanMark.place] at hlt
      omega
    rw [ScanMark.place, hsplit, List.append_assoc] at hrest
    rw [hrest, hplace] at hfirst
    exact modeAfter_of_terminator hmarks hw hfirst
  · exact codeLine_append_cons hline (Text.trimmed_trim raw) hprefix (Or.inr rfl) []

/-! ## The laws -/

/-- A line of code leaves a text in normal form. It has no white space at its ends and is read
as itself. If it ends the statement, it is read as itself with a terminator behind it, and
without one if it is not empty. -/
theorem the_code_of_a_line_is_read_as_itself (raw : Text) :
    (∀ code, classify raw = .fragment code →
      code ≠ [] ∧ Text.Trimmed code ∧ classify code = .fragment code) ∧
    ∀ code, classify raw = .terminated code →
      Text.Trimmed code ∧ classify (code ++ [';']) = .terminated code ∧
        (code ≠ [] → classify code = .fragment code) := by
  constructor
  · intro code h
    have hcode? := congrArg code? h
    have hne := ne_nil_of_fragment h
    exact ⟨hne, trimmed_code hcode?, classify_code hcode? hne⟩
  · intro code h
    have hcode? := congrArg code? h
    exact ⟨trimmed_code hcode?, classify_code_ended h, classify_code hcode?⟩

/-- Code with an opening that is cut from its closing, and code that is all gone but for what
ends it. -/
theorem cut_off_code_is_read_as_itself :
    let opened := "\ta- /* b */ c /*\u2003-- */".toList
    let left₁ := "a- /* b */ c /*".toList
    let ended := " */d/*;--*/ -/ ; /* e".toList
    let left₂ := "*/d/*;--*/ -/".toList
    let empty := "\u3000 ; commit".toList
    classify opened = .fragment left₁ ∧ classify left₁ = .fragment left₁ ∧
      classify ended = .terminated left₂ ∧ classify (left₂ ++ [';']) = .terminated left₂ ∧
      classify left₂ = .fragment left₂ ∧
      classify empty = .terminated [] ∧ classify [';'] = .terminated [] := by
  intro opened left₁ ended left₂ empty
  have hopened : classify opened = .fragment left₁ := by decide +kernel
  have hended : classify ended = .terminated left₂ := by decide +kernel
  have hempty : classify empty = .terminated [] := by decide +kernel
  obtain ⟨-, -, hself⟩ := (the_code_of_a_line_is_read_as_itself opened).1 _ hopened
  obtain ⟨-, hagain, hwithout⟩ := (the_code_of_a_line_is_read_as_itself ended).2 _ hended
  obtain ⟨-, halone, -⟩ := (the_code_of_a_line_is_read_as_itself empty).2 _ hempty
  exact ⟨hopened, hself, hended, hagain, hwithout (by decide), hempty, halone⟩

end Line

end NamedSql
