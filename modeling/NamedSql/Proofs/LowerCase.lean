-- Lower case is stable. Nothing that a mapping yields is mapped itself, which is seen on
-- the ranges of the table two by two, so a text in lower case is its own lower case.
import NamedSql.Text.LowerCase

namespace NamedSql.Text

/-! ## The pure model -/

/-- The mapping of `İ`, as far as it concerns what is mapped. -/
def dottedRange : CaseRange := ⟨0x130, 0x130, 1, 0x69⟩

/-- The character of this number has a lower case other than itself. -/
def isMapped (n : Nat) : Bool := (dottedRange :: lowerRanges).any (·.covers n)

/-- What `r` yields lies outside the span of `s`, or it lies between the characters that `s`
covers: both go by twos, and not in step. -/
def CaseRange.misses (r s : CaseRange) : Bool :=
  (r.target + (r.last - r.first)).blt s.first || s.last.blt r.target ||
    (r.step == 2 || r.first == r.last) && s.step == 2 && (r.target + s.first) % 2 == 1

/-! ## The table -/

-- A statement with `∀ r ∈ lowerRanges` takes twice as long to evaluate.
theorem lowerRanges_miss :
    (lowerRanges.all fun r => (dottedRange :: lowerRanges).all r.misses) = true := by
  decide +kernel

theorem CaseRange.covers_iff {r : CaseRange} {n : Nat} :
    r.covers n = true ↔ (r.first ≤ n ∧ n ≤ r.last) ∧ (n - r.first) % r.step = 0 := by
  unfold covers
  rw [Bool.and_eq_true, Bool.and_eq_true, decide_eq_true_iff, decide_eq_true_iff, beq_iff_eq]

theorem CaseRange.not_covers_apply {r s : CaseRange} (h : r.misses s = true) {n : Nat}
    (hn : r.covers n = true) : s.covers (r.apply n) = false := by
  rw [Bool.eq_false_iff]
  intro hs
  obtain ⟨⟨hfirst, hlast⟩, hstep⟩ := covers_iff.1 hn
  obtain ⟨⟨hsfirst, hslast⟩, hsstep⟩ := covers_iff.1 hs
  unfold apply at hsfirst hslast hsstep
  simp only [misses, Bool.and_eq_true, Bool.or_eq_true, Nat.blt_eq, beq_iff_eq] at h
  rcases h with (h | h) | ⟨⟨htwo, hstwo⟩, hodd⟩
  · omega
  · omega
  · rw [hstwo] at hsstep
    rcases htwo with htwo | hone
    · rw [htwo] at hstep
      omega
    · omega

theorem not_isMapped_apply {r : CaseRange} (hr : r ∈ lowerRanges) {n : Nat}
    (hn : r.covers n = true) : isMapped (r.apply n) = false := by
  unfold isMapped
  rw [List.any_eq_false]
  intro s hs
  have hmiss := List.all_eq_true.1 (List.all_eq_true.1 lowerRanges_miss r hr) s hs
  rw [CaseRange.not_covers_apply hmiss hn]
  exact Bool.false_ne_true

/-! ## One character -/

theorem not_isMapped_lowerChar {c : Char} (h : c ≠ 'İ') :
    isMapped (lowerChar c).toNat = false := by
  unfold lowerChar
  split
  · rename_i r hr
    have hcovers : r.covers c.toNat = true :=
      List.find?_some (p := fun r => CaseRange.covers r c.toNat) hr
    rw [Char.ofNat]
    by_cases hvalid : (r.apply c.toNat).isValidChar
    · rw [dif_pos hvalid]
      exact not_isMapped_apply (List.mem_of_find?_eq_some hr) hcovers
    · rw [dif_neg hvalid]
      decide +kernel
  · rename_i hnone
    have hdotted : dottedRange.covers c.toNat = false := by
      rw [Bool.eq_false_iff]
      intro hc
      obtain ⟨⟨hfirst, hlast⟩, -⟩ := CaseRange.covers_iff.1 hc
      have hnat : c.toNat = 'İ'.toNat := Nat.le_antisymm hlast hfirst
      exact h (Char.toNat_inj.1 hnat)
    unfold isMapped
    rw [List.any_cons, hdotted, Bool.false_or, List.any_eq_false]
    exact List.find?_eq_none.1 hnone

/-- The characters that `Σ` and `İ` become. -/
theorem not_isMapped_of_mem {c : Char} (h : c ∈ ['ς', 'σ', 'i', '\u0307']) :
    isMapped c.toNat = false := by
  have hall : (['ς', 'σ', 'i', '\u0307'].all fun d => !isMapped d.toNat) = true := by
    decide +kernel
  simpa using List.all_eq_true.1 hall c h

theorem lowerChar_of_not_isMapped {c : Char} (h : isMapped c.toNat = false) :
    c ≠ 'Σ' ∧ c ≠ 'İ' ∧ lowerChar c = c := by
  refine ⟨?_, ?_, ?_⟩
  · rintro rfl
    revert h
    decide +kernel
  · rintro rfl
    revert h
    decide +kernel
  · unfold isMapped at h
    rw [List.any_cons, Bool.or_eq_false_iff, List.any_eq_false] at h
    unfold lowerChar
    rw [List.find?_eq_none.2 h.2]

/-! ## A whole text -/

theorem not_isMapped_lowerAfter (before t : Text) :
    ∀ c ∈ lowerAfter before t, isMapped c.toNat = false := by
  induction t generalizing before with
  | nil => exact fun c hc => absurd hc List.not_mem_nil
  | cons c cs ih =>
    intro d hd
    rw [lowerAfter] at hd
    rcases List.mem_append.1 hd with hd | hd
    · split at hd
      · rw [List.mem_singleton.1 hd]
        split
        · exact not_isMapped_of_mem (by simp)
        · exact not_isMapped_of_mem (by simp)
      · split at hd
        · exact not_isMapped_of_mem (List.mem_append_right ['ς', 'σ'] hd)
        · rename_i hne
          rw [List.mem_singleton.1 hd]
          exact not_isMapped_lowerChar hne
    · exact ih _ d hd

theorem lowerAfter_of_not_isMapped {t : Text} (h : ∀ c ∈ t, isMapped c.toNat = false)
    (before : Text) : lowerAfter before t = t := by
  induction t generalizing before with
  | nil => rfl
  | cons c cs ih =>
    obtain ⟨hsigma, hdot, hlower⟩ := lowerChar_of_not_isMapped (h c List.mem_cons_self)
    rw [lowerAfter, if_neg hsigma, if_neg hdot, hlower,
      ih fun d hd => h d (List.mem_cons_of_mem _ hd)]
    rfl

theorem lower_lower (t : Text) : lower (lower t) = lower t :=
  lowerAfter_of_not_isMapped (not_isMapped_lowerAfter [] t) []

end NamedSql.Text
