-- Where lines end. A text can be cut into lines before or after it is encoded, and
-- piece by piece or all at once. The carriage return at the end of a line never
-- changes the class of the line.
import NamedSql.Proofs.Trimming
import NamedSql.Script

namespace NamedSql

namespace Text

/-! ## Piece by piece -/

/-- What is cut in two pieces is cut as the whole is, if the rest of the first piece
is carried over. -/
theorem cutAt_append {α : Type} [DecidableEq α] (mark : α) (x y : List α) :
    cutAt mark (x ++ y) =
      ((cutAt mark x).1 ++ (cutAt mark ((cutAt mark x).2 ++ y)).1,
        (cutAt mark ((cutAt mark x).2 ++ y)).2) := by
  have hwhole : x ++ y = joinEnded mark ((cutAt mark x).1 ++
      (cutAt mark ((cutAt mark x).2 ++ y)).1) ++ (cutAt mark ((cutAt mark x).2 ++ y)).2 := by
    unfold joinEnded
    rw [List.flatMap_append, List.append_assoc]
    change _ = joinEnded mark _ ++ (joinEnded mark _ ++ _)
    rw [joinEnded_cutAt, ← List.append_assoc, joinEnded_cutAt]
  rw [hwhole]
  apply cutAt_joinEnded
  · intro p hp
    rcases List.mem_append.1 hp with hp | hp
    · exact (not_mem_cutAt x).1 p hp
    · exact (not_mem_cutAt _).1 p hp
  · exact (not_mem_cutAt _).2

/-! ## Lines in bytes -/

/-- A byte below 128 is the whole encoding of its character. -/
theorem toNat_of_ascii_byte {c : Char} {b : UInt8} (h : b ∈ String.utf8EncodeChar c)
    (hb : b.toNat < 128) : c.toNat = b.toNat := by
  have hc : c.toNat = c.val.toNat := rfl
  rw [hc]
  unfold String.utf8EncodeChar at h
  simp only at h
  split at h
  · simp only [List.mem_singleton] at h
    subst h
    simp only [UInt8.toNat_ofNat'] at *
    omega
  · -- Every byte of a longer encoding is at least 128.
    exfalso
    have hlow : ∀ n : Nat, b = UInt8.ofNat n → 128 ≤ n → n < 256 → False := by
      intro n hn h1 h2
      subst hn
      rw [UInt8.toNat_ofNat'] at hb
      omega
    split at h
    · simp only [List.mem_cons, List.not_mem_nil, or_false] at h
      rcases h with h | h <;> exact hlow _ h (by omega) (by omega)
    · split at h
      · simp only [List.mem_cons, List.not_mem_nil, or_false] at h
        rcases h with h | h | h <;> exact hlow _ h (by omega) (by omega)
      · simp only [List.mem_cons, List.not_mem_nil, or_false] at h
        rcases h with h | h | h | h <;> exact hlow _ h (by omega) (by omega)

theorem encode_append (s t : Text) : encode (s ++ t) = encode s ++ encode t := by
  unfold encode
  rw [List.flatMap_append]

theorem lineFeed_not_mem_encode {t : Text} (h : '\n' ∉ t) : Read.lineFeed ∉ encode t := by
  intro hm
  obtain ⟨c, hc, hb⟩ := List.mem_flatMap.1 hm
  have hnat : c.toNat = 10 := toNat_of_ascii_byte hb (by decide)
  have hfeed : c = '\n' := Char.toNat_inj.1 hnat
  exact h (hfeed ▸ hc)

theorem encode_joinEnded (parts : List Text) :
    encode (joinEnded '\n' parts) = joinEnded Read.lineFeed (parts.map encode) := by
  induction parts with
  | nil => rfl
  | cons p ps ih =>
    have hfeed : encode ['\n'] = [Read.lineFeed] := by decide
    unfold joinEnded at ih ⊢
    rw [List.flatMap_cons, List.map_cons, List.flatMap_cons, encode_append, encode_append, ih, hfeed]

/-- The lines of an encoded text are the encoded lines of the text. -/
theorem cutAt_encode (t : Text) :
    cutAt Read.lineFeed (encode t) = ((cutAt '\n' t).1.map encode, encode (cutAt '\n' t).2) := by
  have hnot := @not_mem_cutAt _ _ '\n' t
  have ht := @joinEnded_cutAt _ _ '\n' t
  conv => lhs; rw [← ht, encode_append, encode_joinEnded]
  apply cutAt_joinEnded
  · intro p hp
    obtain ⟨q, hq, rfl⟩ := List.mem_map.1 hp
    exact lineFeed_not_mem_encode (hnot.1 q hq)
  · exact lineFeed_not_mem_encode hnot.2

/-! ## Lines put together -/

/-- Lines that are put together come back, each but the last without its carriage return. -/
theorem lines_concat {init : List Text} {last : Text} (hinit : ∀ l ∈ init, '\n' ∉ l)
    (hlast : '\n' ∉ last) :
    lines (joinEnded '\n' init ++ last) =
      init.map dropReturn ++ if last.isEmpty then [] else [last] := by
  unfold lines
  rw [cutAt_joinEnded hinit hlast]

theorem trim_dropReturn (l : Text) : trim (dropReturn l) = trim l := by
  unfold dropReturn
  split
  · rename_i h
    have hl : l = l.dropLast ++ ['\r'] := by
      obtain ⟨init, rfl⟩ := List.getLast?_eq_some_iff.1 h
      simp
    conv => rhs; rw [hl]
    rw [trim_append_spaces]
    intro c hc
    rw [List.mem_singleton.1 hc]
    decide
  · rfl

end Text

namespace Line

theorem classify_dropReturn (l : Text) : classify (Text.dropReturn l) = classify l := by
  unfold classify
  rw [Text.trim_dropReturn]

end Line

end NamedSql
