-- Words in texts. A word at the head is a part of the text that differs from it in the
-- case of letters at most. The places of a word are those where it stands, less the
-- ones that overlap a place further left.
import Mathlib
import NamedSql.Text.Basic

namespace NamedSql.Text

/-! ## The case of a letter -/

theorem isUpper_iff (c : Char) : c.isUpper = true ↔ 65 ≤ c.val.toNat ∧ c.val.toNat ≤ 90 := by
  have h : c.isUpper = decide (c.val ≥ 'A'.val ∧ c.val ≤ 'Z'.val) := rfl
  rw [h, decide_eq_true_eq, ge_iff_le, UInt32.le_iff_toNat_le, UInt32.le_iff_toNat_le]
  rfl

theorem isLower_iff (c : Char) : c.isLower = true ↔ 97 ≤ c.val.toNat ∧ c.val.toNat ≤ 122 := by
  have h : c.isLower = (decide (c.val ≥ 'a'.val) && decide (c.val ≤ 'z'.val)) := rfl
  rw [h, Bool.and_eq_true, decide_eq_true_eq, decide_eq_true_eq, ge_iff_le,
    UInt32.le_iff_toNat_le, UInt32.le_iff_toNat_le]
  rfl

theorem not_isUpper_of_not_isAlpha {c : Char} (h : c.isAlpha = false) : ¬ c.isUpper = true := by
  intro hup
  rw [Char.isAlpha, hup] at h
  cases h

/-- A character that is no letter has no other spelling. -/
theorem eq_of_toLower_eq {c w : Char} (hw : w.isAlpha = false) (h : c.toLower = w) : c = w := by
  rw [← h, Char.isAlpha_toLower_eq_isAlpha] at hw
  rw [← h, Char.toLower_eq_of_not_isUpper (not_isUpper_of_not_isAlpha hw)]

theorem map_toLower_eq {s word : Text} (hword : ∀ w ∈ word, w.isAlpha = false)
    (h : s.map Char.toLower = word) : s = word := by
  subst h
  conv => lhs; rw [← List.map_id s]
  apply List.map_congr_left
  intro c hc
  exact eq_of_toLower_eq (hword _ (List.mem_map_of_mem hc)) rfl

/-! ## A word at the head -/

/-- What is dropped is spelled as the word is, up to the case of letters. -/
theorem dropWord?_eq_some_iff {word t r : Text} :
    dropWord? word t = some r ↔
      ∃ s, t = s ++ r ∧ s.map Char.toLower = word.map Char.toLower := by
  induction word generalizing t with
  | nil => simp [dropWord?, eq_comm]
  | cons w ws ih =>
    cases t with
    | nil => simp [dropWord?]
    | cons c cs =>
      rw [dropWord?]
      constructor
      · intro h
        split at h
        · rename_i halike
          obtain ⟨s, rfl, hs⟩ := ih.1 h
          refine ⟨c :: s, rfl, ?_⟩
          rw [List.map_cons, List.map_cons, hs, eq_of_beq halike]
        · simp at h
      · rintro ⟨s, hsplit, hs⟩
        cases s with
        | nil => simp at hs
        | cons d ds =>
          obtain ⟨rfl, rfl⟩ := List.cons.inj hsplit
          obtain ⟨hc, hds⟩ := List.cons.inj hs
          rw [if_pos (by simpa [alike] using hc.symm)]
          exact ih.2 ⟨ds, rfl, hds⟩

@[simp] theorem startsWithWord_cons_nil (w : Char) (ws : Text) :
    startsWithWord (w :: ws) [] = false := rfl

@[simp] theorem startsWithWord_cons_cons (w c : Char) (ws cs : Text) :
    startsWithWord (w :: ws) (c :: cs) = (alike w c && startsWithWord ws cs) := by
  unfold startsWithWord
  rw [dropWord?]
  cases alike w c <;> simp

/-- A text that goes on starts with the words that it started with. -/
theorem startsWithWord_of_isPrefix {word s t : Text} (h : s <+: t)
    (hs : startsWithWord word s = true) : startsWithWord word t = true := by
  induction word generalizing s t with
  | nil => rfl
  | cons w ws ih =>
    cases s with
    | nil => simp at hs
    | cons c cs =>
      cases t with
      | nil => simp at h
      | cons d ds =>
        obtain ⟨rfl, htail⟩ := List.cons_prefix_cons.1 h
        simp only [startsWithWord_cons_cons, Bool.and_eq_true] at hs ⊢
        exact ⟨hs.1, ih htail hs.2⟩

/-- No letter of the word is like the character. -/
def avoids (word : Text) (c : Char) : Bool := word.all fun w => !alike w c

theorem avoids_cons {w c : Char} {ws : Text} (h : avoids (w :: ws) c = true) :
    alike w c = false ∧ avoids ws c = true := by
  unfold avoids at h ⊢
  rw [List.all_cons, Bool.and_eq_true, Bool.not_eq_true'] at h
  exact h

/-- A character that no letter of the word is like adds no word to a text that goes on with it. -/
theorem startsWithWord_append_cons {word : Text} {c : Char} (t r : Text)
    (hw : avoids word c = true) :
    startsWithWord word (t ++ c :: r) = startsWithWord word t := by
  induction word generalizing t with
  | nil => rfl
  | cons w ws ih =>
    obtain ⟨hfirst, hrest⟩ := avoids_cons hw
    cases t with
    | nil => simp [hfirst]
    | cons d ds =>
      rw [List.cons_append, startsWithWord_cons_cons, startsWithWord_cons_cons, ih ds hrest]

/-! ## A word anywhere -/

/-- Two characters that stand together do so on one side of any other character. -/
theorem isInfix_append_cons {α : Type} {x y c : α} (hx : x ≠ c) (hy : y ≠ c) (s t : List α) :
    [x, y] <:+: s ++ c :: t ↔ [x, y] <:+: s ∨ [x, y] <:+: t := by
  induction s with
  | nil => simp [List.infix_cons_iff, hx]
  | cons d ds ih =>
    rw [List.cons_append, List.infix_cons_iff, List.infix_cons_iff, ih, or_assoc]
    cases ds with
    | nil => simp [hy]
    | cons e es => simp

/-! ## Words put together -/

theorem infix_intercalate {codes : List Text} {code : Text} (h : code ∈ codes) (sep : Text) :
    code <:+: List.intercalate sep codes := by
  induction codes with
  | nil => exact absurd h List.not_mem_nil
  | cons first rest ih =>
    by_cases hrest : rest = []
    · subst hrest
      rw [List.mem_singleton.1 h, List.intercalate_singleton]
    · rw [List.intercalate_cons_of_ne_nil hrest, List.append_assoc]
      rcases List.mem_cons.1 h with rfl | h
      · exact List.infix_append_left
      · exact (ih h).trans (List.infix_append_right.trans List.infix_append_right)

theorem mem_intercalate {codes : List Text} {sep : Text} {x : Char}
    (h : x ∈ List.intercalate sep codes) : x ∈ sep ∨ ∃ code ∈ codes, x ∈ code := by
  induction codes with
  | nil => exact absurd h List.not_mem_nil
  | cons first rest ih =>
    by_cases hrest : rest = []
    · subst hrest
      rw [List.intercalate_singleton] at h
      exact Or.inr ⟨first, List.mem_cons_self, h⟩
    · rw [List.intercalate_cons_of_ne_nil hrest, List.append_assoc] at h
      rcases List.mem_append.1 h with h | h
      · exact Or.inr ⟨first, List.mem_cons_self, h⟩
      · rcases List.mem_append.1 h with h | h
        · exact Or.inl h
        · rcases ih h with h | ⟨code, hcode, hx⟩
          · exact Or.inl h
          · exact Or.inr ⟨code, List.mem_cons_of_mem _ hcode, hx⟩

/-! ## The places of a word -/

section Places

variable {α : Type} [BEq α] {word : List α}

theorem placesFrom_succ (i skip : Nat) (t : List α) :
    placesFrom word (i + 1) skip t = (placesFrom word i skip t).map (· + 1) := by
  fun_induction placesFrom word i skip t <;> simp_all [placesFrom]

/-- The first place of a word is the start, or it is found behind the first item. -/
theorem place?_cons (c : α) (cs : List α) :
    place? word (c :: cs) =
      if word.isPrefixOf (c :: cs) then some 0 else (place? word cs).map (· + 1) := by
  unfold place? places
  rw [placesFrom]
  split
  · rfl
  · rw [placesFrom_succ, List.head?_map]

theorem placesFrom_single (x : α) (i : Nat) (c : α) (cs : List α) :
    placesFrom [x] i 0 (c :: cs) =
      if x == c then i :: placesFrom [x] (i + 1) 0 cs else placesFrom [x] (i + 1) 0 cs := by
  have hhead : [x].isPrefixOf (c :: cs) = (x == c) := Bool.and_true _
  rw [placesFrom, hhead]
  rfl

/-- A single item stands in one of two parts. -/
theorem placesFrom_append (x : α) (i : Nat) (s t : List α) :
    placesFrom [x] i 0 (s ++ t) = placesFrom [x] i 0 s ++ placesFrom [x] (i + s.length) 0 t := by
  induction s generalizing i with
  | nil => rfl
  | cons c cs ih =>
    have hlen : i + (c :: cs).length = i + 1 + cs.length := by
      rw [List.length_cons]
      omega
    rw [List.cons_append, placesFrom_single, placesFrom_single, ih, hlen]
    split <;> rfl

theorem mem_places_of_place? {t : List α} {p : Nat} (h : place? word t = some p) :
    p ∈ places word t := List.mem_of_mem_head? h

variable [LawfulBEq α]

theorem mem_placesFrom {i skip p : Nat} {t : List α} (h : p ∈ placesFrom word i skip t) :
    ∃ k, p = i + k ∧ skip ≤ k ∧ k < t.length ∧ word <+: t.drop k := by
  fun_induction placesFrom word i skip t with
  | case1 => simp at h
  | case2 i skip c cs ih =>
    obtain ⟨k, rfl, hk, hlen, hword⟩ := ih h
    exact ⟨k + 1, by omega, by omega, by simpa using hlen, hword⟩
  | case3 i c cs hhead ih =>
    rcases List.mem_cons.1 h with rfl | h
    · exact ⟨0, rfl, le_refl 0, by simp, List.isPrefixOf_iff_prefix.1 hhead⟩
    · obtain ⟨k, rfl, -, hlen, hword⟩ := ih h
      exact ⟨k + 1, by omega, by omega, by simpa using hlen, hword⟩
  | case4 i c cs hhead ih =>
    obtain ⟨k, rfl, -, hlen, hword⟩ := ih h
    exact ⟨k + 1, by omega, by omega, by simpa using hlen, hword⟩

theorem isPrefix_drop_of_mem_places {p : Nat} {t : List α} (h : p ∈ places word t) :
    word <+: t.drop p := by
  obtain ⟨k, rfl, -, -, hword⟩ := mem_placesFrom h
  simpa using hword

end Places

end NamedSql.Text
