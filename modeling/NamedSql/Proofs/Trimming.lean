-- Trimming. White space at the ends of a text is all that trimming takes away, so
-- more or less of it there makes no difference, and a trimmed text stays as it is.
import Mathlib.Data.List.DropRight
import NamedSql.Text.Basic

namespace NamedSql.Text

/-! ## One end -/

theorem trimEnd_eq_rdropWhile (t : Text) : trimEnd t = t.rdropWhile isSpace := rfl

theorem trimEnd_isPrefix (t : Text) : trimEnd t <+: t := List.rdropWhile_prefix isSpace t

theorem trimStart_isSuffix (t : Text) : trimStart t <:+ t := List.dropWhile_suffix isSpace

theorem trimStart_split (t : Text) : ∃ w, t = w ++ trimStart t ∧ ∀ c ∈ w, isSpace c = true :=
  ⟨t.takeWhile isSpace, List.takeWhile_append_dropWhile.symm, fun _ => List.mem_takeWhile_imp⟩

theorem trimEnd_split (t : Text) : ∃ w, t = trimEnd t ++ w ∧ ∀ c ∈ w, isSpace c = true := by
  obtain ⟨w, hsplit, hspace⟩ := trimStart_split t.reverse
  refine ⟨w.reverse, ?_, fun c hc => hspace c (List.mem_reverse.1 hc)⟩
  rw [← List.reverse_inj, List.reverse_append, List.reverse_reverse, trimEnd, List.reverse_reverse]
  exact hsplit

/-- A text that does not end in white space is kept when more stands behind it. -/
theorem trimEnd_append {s : Text} (hs : ∀ c, s.getLast? = some c → isSpace c = false) (t : Text) :
    trimEnd (s ++ t) = s ++ trimEnd t := by
  have hself : s.reverse.dropWhile isSpace = s.reverse := by
    cases hrev : s.reverse with
    | nil => rfl
    | cons c cs => simp [hs c (by rw [← List.head?_reverse, hrev]; rfl)]
  unfold trimEnd
  rw [List.reverse_append, List.dropWhile_append, hself]
  split
  · rename_i hnil
    simp [List.isEmpty_iff.1 hnil]
  · simp

theorem trimEnd_append_spaces (t : Text) {w : Text} (h : ∀ c ∈ w, isSpace c = true) :
    trimEnd (t ++ w) = trimEnd t := by
  unfold trimEnd
  rw [List.reverse_append, List.dropWhile_append_of_pos fun c hc => h c (List.mem_reverse.1 hc)]

theorem trimStart_spaces_append (t : Text) {w : Text} (h : ∀ c ∈ w, isSpace c = true) :
    trimStart (w ++ t) = trimStart t := List.dropWhile_append_of_pos h

theorem trimStart_spaces {w : Text} (h : ∀ c ∈ w, isSpace c = true) : trimStart w = [] :=
  List.dropWhile_eq_nil_iff.2 h

/-! ## Both ends -/

/-- White space in front of a text is no part of the trimmed text. -/
theorem trim_spaces_append (t : Text) {w : Text} (h : ∀ c ∈ w, isSpace c = true) :
    trim (w ++ t) = trim t := by
  unfold trim
  rw [trimStart_spaces_append t h]

/-- White space behind a text is no part of the trimmed text. -/
theorem trim_append_spaces (t : Text) {w : Text} (h : ∀ c ∈ w, isSpace c = true) :
    trim (t ++ w) = trim t := by
  have happend : trimStart (t ++ w) = if (trimStart t).isEmpty then trimStart w
      else trimStart t ++ w := List.dropWhile_append
  unfold trim
  rw [happend]
  split
  · rename_i hnil
    rw [trimStart_spaces h, List.isEmpty_iff.1 hnil]
  · exact trimEnd_append_spaces _ h

/-- A text is its trimmed part between white space. -/
theorem trim_split (t : Text) :
    ∃ v w, t = v ++ (trim t ++ w) ∧ t.length = v.length + (trimStart t).length ∧
      (∀ c ∈ v, isSpace c = true) ∧ ∀ c ∈ w, isSpace c = true := by
  obtain ⟨v, hstart, hv⟩ := trimStart_split t
  obtain ⟨w, hend, hw⟩ := trimEnd_split (trimStart t)
  refine ⟨v, w, ?_, ?_, hv, hw⟩
  · rw [trim, ← hend]
    exact hstart
  · rw [← List.length_append, ← hstart]

theorem trim_infix (t : Text) : trim t <:+: t :=
  (trimEnd_isPrefix _).isInfix.trans (trimStart_isSuffix t).isInfix

/-! ## Trimmed texts -/

/-- No white space stands at the two ends. -/
structure Trimmed (t : Text) : Prop where
  head : ∀ c, t.head? = some c → isSpace c = false
  last : ∀ c, t.getLast? = some c → isSpace c = false

theorem trimmed_nil : Trimmed [] := ⟨by simp, by simp⟩

theorem head?_trimStart {t : Text} {c : Char} (h : (trimStart t).head? = some c) :
    isSpace c = false := by
  have hnot := List.head?_dropWhile_not isSpace t
  unfold trimStart at h
  simpa [h] using hnot

theorem getLast?_trimEnd {t : Text} {c : Char} (h : (trimEnd t).getLast? = some c) :
    isSpace c = false := by
  unfold trimEnd at h
  rw [List.getLast?_reverse] at h
  exact head?_trimStart h

/-- A prefix starts as the whole does. -/
theorem head?_of_isPrefix {s t : Text} {c : Char} (h : s <+: t) (hc : s.head? = some c) :
    t.head? = some c := by
  obtain ⟨u, rfl⟩ := h
  cases s with
  | nil => simp at hc
  | cons d ds => simpa using hc

/-- What is cut off a text without white space at its head is trimmed, once the white
space before the cut is gone. -/
theorem trimmed_trimEnd {s t : Text} (h : s <+: t)
    (ht : ∀ c, t.head? = some c → isSpace c = false) : Trimmed (trimEnd s) :=
  ⟨fun c hc => ht c (head?_of_isPrefix ((trimEnd_isPrefix s).trans h) hc), fun _ => getLast?_trimEnd⟩

theorem trimmed_trim (t : Text) : Trimmed (trim t) :=
  trimmed_trimEnd (List.prefix_refl _) fun _ => head?_trimStart

theorem trimmed_concat {t : Text} {d : Char}
    (ht : ∀ c, t.head? = some c → isSpace c = false) (hd : isSpace d = false) :
    Trimmed (t ++ [d]) := by
  constructor
  · intro c hc
    cases t with
    | nil => rwa [← Option.some.inj hc]
    | cons e es => exact ht c (by simpa using hc)
  · intro c hc
    rw [List.getLast?_concat] at hc
    rwa [← Option.some.inj hc]

/-- Trimmed texts stay trimmed when they are put together, whatever stands between them. -/
theorem Trimmed.append_cons {s t : Text} (hs : Trimmed s) (ht : Trimmed t) (hsne : s ≠ [])
    (htne : t ≠ []) {d : Char} : Trimmed (s ++ d :: t) := by
  constructor
  · intro c hc
    rw [List.head?_append_of_ne_nil _ hsne] at hc
    exact hs.head c hc
  · intro c hc
    rw [List.append_cons, List.getLast?_append_of_ne_nil _ htne] at hc
    exact ht.last c hc

theorem Trimmed.trimEnd_eq {t : Text} (h : Trimmed t) : trimEnd t = t := by
  rw [trimEnd_eq_rdropWhile, List.rdropWhile_eq_self_iff]
  intro hne
  simp [h.last _ (List.getLast?_eq_some_getLast hne)]

theorem Trimmed.trim_eq {t : Text} (h : Trimmed t) : trim t = t := by
  have hstart : trimStart t = t := by
    cases t with
    | nil => rfl
    | cons c cs => simp [trimStart, h.head c rfl]
  unfold trim
  rw [hstart, h.trimEnd_eq]

/-- A trimmed text is kept when more stands behind it, and only that is trimmed. -/
theorem Trimmed.trim_append {s : Text} (h : Trimmed s) (hne : s ≠ []) (t : Text) :
    trim (s ++ t) = s ++ trimEnd t := by
  have hstart : trimStart (s ++ t) = s ++ t := by
    obtain ⟨c, cs, rfl⟩ := List.exists_cons_of_ne_nil hne
    simp [trimStart, h.head c rfl]
  unfold trim
  rw [hstart, trimEnd_append h.last]

/-- What stands behind a text comes behind the trimmed text and the white space at its end. -/
theorem exists_trim_append (raw : Text) : ∃ w, (∀ c ∈ w, isSpace c = true) ∧
    ∀ x, trim (raw ++ x) = trim (trim raw ++ (w ++ x)) := by
  obtain ⟨v, w, hraw, -, hv, hw⟩ := trim_split raw
  refine ⟨w, hw, fun x => ?_⟩
  conv_lhs => rw [hraw, List.append_assoc, List.append_assoc]
  exact trim_spaces_append _ hv

end NamedSql.Text
