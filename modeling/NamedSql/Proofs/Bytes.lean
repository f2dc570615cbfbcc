-- Texts and their bytes. A character of ASCII is one byte, and no byte of another character is
-- a byte of ASCII. So runs and words of ASCII stand in the bytes where they stand in the
-- text, and every place of the text has its offset among the bytes.
import NamedSql.Line.Offsets
import NamedSql.Proofs.LineEnds
import NamedSql.Proofs.Words

namespace NamedSql

namespace Text

/-! ## The pure model -/

/-- A character of ASCII. -/
def isAscii (c : Char) : Bool := c.toNat < 128

/-- The byte of a character of ASCII. -/
def byteOf (c : Char) : UInt8 := UInt8.ofNat c.toNat

/-- The offset of place `i` among the bytes of a text. -/
def offset (t : Text) (i : Nat) : Nat := byteLength (t.take i)

/-- Among the bytes of texts, `p` picks the characters that `q` picks, and all of them are
ASCII. -/
structure PicksAs (p : UInt8 → Bool) (q : Char → Bool) : Prop where
  ascii : ∀ c, isAscii c = true → p (byteOf c) = q c
  byte : ∀ b : UInt8, 128 ≤ b.toNat → p b = false
  char : ∀ c, isAscii c = false → q c = false

/-! ## One character -/

/-- What holds of the first 128 characters holds of ASCII. -/
theorem forall_ascii {P : Char → Prop} (h : ∀ n < 128, P (Char.ofNat n)) (c : Char)
    (hc : isAscii c = true) : P c := by
  have hc := h c.toNat (by simpa [isAscii] using hc)
  rwa [Char.ofNat_toNat] at hc

theorem utf8EncodeChar_ascii {c : Char} (h : isAscii c = true) :
    String.utf8EncodeChar c = [byteOf c] := by
  have hle : c.val.toNat ≤ 127 := by
    have hc : c.val.toNat = c.toNat := rfl
    simp only [isAscii, decide_eq_true_eq] at h
    omega
  unfold String.utf8EncodeChar
  exact if_pos hle

theorem utf8Size_ascii {c : Char} (h : isAscii c = true) : c.utf8Size = 1 := by
  rw [← String.length_utf8EncodeChar, utf8EncodeChar_ascii h]
  rfl

/-- The bytes of a character that is not ASCII. -/
theorem utf8EncodeChar_high {c : Char} (h : isAscii c = false) :
    ∃ b bs, String.utf8EncodeChar c = b :: bs ∧ ∀ x ∈ b :: bs, 128 ≤ x.toNat := by
  obtain ⟨b, bs, hbytes⟩ := List.exists_cons_of_ne_nil (String.utf8EncodeChar_ne_nil (c := c))
  refine ⟨b, bs, hbytes, fun x hx => ?_⟩
  by_contra hlow
  have hnat := toNat_of_ascii_byte (hbytes ▸ hx) (by omega)
  simp only [isAscii, decide_eq_false_iff_not] at h
  omega

theorem encode_cons (c : Char) (cs : Text) :
    encode (c :: cs) = String.utf8EncodeChar c ++ encode cs := rfl

theorem encode_cons_ascii {c : Char} (h : isAscii c = true) (cs : Text) :
    encode (c :: cs) = byteOf c :: encode cs := by
  rw [encode_cons, utf8EncodeChar_ascii h]
  rfl

theorem encode_cons_cases (c : Char) (cs : Text) :
    isAscii c = true ∧ encode (c :: cs) = byteOf c :: encode cs ∨
      isAscii c = false ∧ ∃ b bs, encode (c :: cs) = b :: bs ∧ 128 ≤ b.toNat := by
  cases hc : isAscii c with
  | true => exact Or.inl ⟨rfl, encode_cons_ascii hc cs⟩
  | false =>
    obtain ⟨b, bs, hbytes, hhigh⟩ := utf8EncodeChar_high hc
    exact Or.inr ⟨rfl, b, bs ++ encode cs, by rw [encode_cons, hbytes]; rfl,
      hhigh b List.mem_cons_self⟩

theorem length_encode_ascii {word : Text} (h : ∀ w ∈ word, isAscii w = true) :
    (encode word).length = word.length := by
  induction word with
  | nil => rfl
  | cons w ws ih =>
    rw [encode_cons_ascii (h w List.mem_cons_self), List.length_cons, List.length_cons,
      ih fun x hx => h x (List.mem_cons_of_mem _ hx)]

/-! ## Offsets -/

@[simp] theorem offset_cons_succ (c : Char) (cs : Text) (i : Nat) :
    offset (c :: cs) (i + 1) = c.utf8Size + offset cs i := rfl

theorem byteLength_append (s t : Text) : byteLength (s ++ t) = byteLength s + byteLength t := by
  rw [← length_encode, encode_append, List.length_append, length_encode, length_encode]

theorem offset_length (t : Text) : offset t t.length = byteLength t := by
  rw [offset, List.take_length]

theorem offset_le_byteLength (t : Text) (i : Nat) : offset t i ≤ byteLength t := by
  have hsplit := byteLength_append (t.take i) (t.drop i)
  rw [List.take_append_drop] at hsplit
  unfold offset
  omega

theorem offset_add (t : Text) (i j : Nat) :
    offset t (i + j) = offset t i + offset (t.drop i) j := by
  rw [offset, List.take_add, byteLength_append]
  rfl

theorem offset_of_isPrefix {s t : Text} (h : s <+: t) {i : Nat} (hi : i ≤ s.length) :
    offset s i = offset t i := by
  obtain ⟨u, rfl⟩ := h
  rw [offset, offset, List.take_append_of_le_length hi]

theorem byteLength_ascii {word : Text} (h : ∀ w ∈ word, isAscii w = true) :
    byteLength word = word.length := by
  rw [← length_encode, length_encode_ascii h]

/-- A word of ASCII takes up as many bytes as it has characters. -/
theorem offset_add_word {word t : Text} (h : ∀ w ∈ word, isAscii w = true) {i : Nat}
    (hword : word <+: t.drop i) : offset t (i + word.length) = offset t i + word.length := by
  rw [offset_add, ← offset_of_isPrefix hword (Nat.le_refl _), offset_length, byteLength_ascii h]

theorem offset_lt_of_lt {t : Text} {i j : Nat} (hij : i < j) (hi : i < t.length) :
    offset t i < offset t j := by
  obtain ⟨d, rfl⟩ : ∃ d, j = i + (d + 1) := ⟨j - i - 1, by omega⟩
  rw [offset_add, List.drop_eq_getElem_cons hi, offset_cons_succ]
  have hpos := Char.utf8Size_pos t[i]
  omega

theorem offset_le_of_le {t : Text} {i j : Nat} (hij : i ≤ j) : offset t i ≤ offset t j := by
  obtain ⟨d, rfl⟩ := Nat.exists_eq_add_of_le hij
  rw [offset_add]
  omega

/-- Offsets come in the order of the places inside of a text. -/
theorem offset_le_iff {t : Text} {i : Nat} (hi : i < t.length) (j : Nat) :
    offset t j ≤ offset t i ↔ j ≤ i := by
  constructor
  · intro h
    by_contra hlt
    have := offset_lt_of_lt (Nat.lt_of_not_le hlt) hi
    omega
  · exact offset_le_of_le

/-! ## Runs -/

/-- A run of characters is a run of their bytes. -/
theorem takeWhile_encode {p : UInt8 → Bool} {q : Char → Bool} (h : PicksAs p q) (t : Text) :
    (encode t).takeWhile p = encode (t.takeWhile q) := by
  induction t with
  | nil => rfl
  | cons c cs ih =>
    rcases encode_cons_cases c cs with ⟨hc, hbytes⟩ | ⟨hc, b, bs, hbytes, hhigh⟩
    · rw [hbytes, List.takeWhile_cons, List.takeWhile_cons, h.ascii c hc, ih]
      split
      · rw [encode_cons_ascii hc]
      · rfl
    · rw [hbytes, List.takeWhile_cons, List.takeWhile_cons, h.byte b hhigh, h.char c hc]
      rfl

/-! ## Words -/

theorem picksAs_eq {w : Char} (hw : isAscii w = true) : PicksAs (byteOf w == ·) (w == ·) where
  ascii := by
    intro c hc
    simp only [isAscii, decide_eq_true_eq] at hw hc
    rw [Bool.eq_iff_iff, beq_iff_eq, beq_iff_eq]
    constructor
    · intro h
      have hnat := congrArg UInt8.toNat h
      rw [byteOf, byteOf, UInt8.toNat_ofNat', UInt8.toNat_ofNat'] at hnat
      exact Char.toNat_inj.1 (by omega)
    · rintro rfl
      rfl
  byte := by
    intro b hb
    simp only [isAscii, decide_eq_true_eq] at hw
    rw [beq_eq_false_iff_ne]
    rintro rfl
    rw [byteOf, UInt8.toNat_ofNat'] at hb
    omega
  char := by
    intro c hc
    rw [beq_eq_false_iff_ne]
    rintro rfl
    rw [hw] at hc
    cases hc

theorem isPrefixOf_encode {word : Text} (h : ∀ w ∈ word, isAscii w = true) (t : Text) :
    (encode word).isPrefixOf (encode t) = word.isPrefixOf t := by
  induction word generalizing t with
  | nil => rfl
  | cons w ws ih =>
    have hw := picksAs_eq (h w List.mem_cons_self)
    have ih := ih fun x hx => h x (List.mem_cons_of_mem _ hx)
    rw [encode_cons_ascii (h w List.mem_cons_self)]
    cases t with
    | nil => rfl
    | cons c cs =>
      rcases encode_cons_cases c cs with ⟨hc, hbytes⟩ | ⟨hc, b, bs, hbytes, hhigh⟩
      · rw [hbytes, List.isPrefixOf_cons_cons, List.isPrefixOf_cons_cons, hw.ascii c hc, ih]
      · rw [hbytes, List.isPrefixOf_cons_cons, List.isPrefixOf_cons_cons, hw.byte b hhigh,
          hw.char c hc]
        rfl

/-- No word of ASCII starts inside of another character. -/
theorem placesFrom_high {word : Text} (hne : word ≠ []) (hword : ∀ w ∈ word, isAscii w = true)
    {bs : List UInt8} (hbs : ∀ b ∈ bs, 128 ≤ b.toNat) (i : Nat) (rest : List UInt8) :
    placesFrom (encode word) i 0 (bs ++ rest) =
      placesFrom (encode word) (i + bs.length) 0 rest := by
  obtain ⟨w, ws, rfl⟩ := List.exists_cons_of_ne_nil hne
  have hw := picksAs_eq (hword w List.mem_cons_self)
  induction bs generalizing i with
  | nil => rfl
  | cons b bs ih =>
    have hhead : (encode (w :: ws)).isPrefixOf (b :: (bs ++ rest)) = false := by
      rw [encode_cons_ascii (hword w List.mem_cons_self), List.isPrefixOf_cons_cons,
        hw.byte b (hbs b List.mem_cons_self), Bool.false_and]
    rw [List.cons_append, placesFrom, hhead, if_neg Bool.false_ne_true,
      ih fun x hx => hbs x (List.mem_cons_of_mem _ hx), List.length_cons]
    congr 1
    omega

theorem placesFrom_encode_cons_of_not {word : Text} (hne : word ≠ [])
    (hword : ∀ w ∈ word, isAscii w = true) {c : Char} {cs : Text}
    (hpre : word.isPrefixOf (c :: cs) = false) (i : Nat) :
    placesFrom (encode word) i 0 (encode (c :: cs)) =
      placesFrom (encode word) (i + c.utf8Size) 0 (encode cs) := by
  have hhead := isPrefixOf_encode hword (c :: cs)
  rw [hpre] at hhead
  cases hc : isAscii c with
  | true =>
    rw [encode_cons_ascii hc] at hhead
    rw [encode_cons_ascii hc, placesFrom, hhead, if_neg Bool.false_ne_true, utf8Size_ascii hc]
  | false =>
    obtain ⟨b, bs, hbytes, hhigh⟩ := utf8EncodeChar_high hc
    rw [encode_cons, hbytes, placesFrom_high hne hword hhigh, ← hbytes, String.length_utf8EncodeChar]

/-- Where a word starts, the characters of the word behind the first are passed over. -/
theorem placesFrom_encode_cons_of_isPrefix {word : Text} (hword : ∀ w ∈ word, isAscii w = true)
    {c : Char} {cs : Text} (hc : isAscii c = true) (hpre : word.isPrefixOf (c :: cs) = true)
    (i : Nat) :
    placesFrom (encode word) i 0 (encode (c :: cs)) =
      i :: placesFrom (encode word) (i + 1) (word.length - 1) (encode cs) := by
  have hhead := isPrefixOf_encode hword (c :: cs)
  rw [hpre, encode_cons_ascii hc] at hhead
  rw [encode_cons_ascii hc, placesFrom, hhead, if_pos rfl, length_encode_ascii hword]

/-- The first characters of a text that a word of ASCII stands at are ASCII. -/
theorem isAscii_of_isPrefixOf {word : Text} (hne : word ≠ []) (hword : ∀ w ∈ word, isAscii w = true)
    {c : Char} {cs : Text} (hpre : word.isPrefixOf (c :: cs) = true) :
    isAscii c = true ∧ ∀ x ∈ cs.take (word.length - 1), isAscii x = true := by
  obtain ⟨r, hr⟩ := List.isPrefixOf_iff_prefix.1 hpre
  obtain ⟨w, ws, rfl⟩ := List.exists_cons_of_ne_nil hne
  rw [List.cons_append] at hr
  obtain ⟨rfl, rfl⟩ := List.cons.inj hr
  refine ⟨hword w List.mem_cons_self, fun x hx => hword x (List.mem_cons_of_mem _ ?_)⟩
  simpa using hx

/-- The first `skip` characters belong to a word of ASCII, so they are as many bytes. -/
theorem placesFrom_encode {word : Text} (hne : word ≠ []) (hword : ∀ w ∈ word, isAscii w = true)
    (t : Text) (i skip : Nat) (hskip : ∀ c ∈ t.take skip, isAscii c = true) :
    placesFrom (encode word) i skip (encode t) =
      (placesFrom word 0 skip t).map fun k => i + offset t k := by
  induction t generalizing i skip with
  | nil => rfl
  | cons c cs ih =>
    -- Behind the first character all places are one more, and all offsets are its bytes more.
    have hbehind : ∀ skip, (∀ c ∈ cs.take skip, isAscii c = true) →
        placesFrom (encode word) (i + c.utf8Size) skip (encode cs) =
          (placesFrom word 1 skip cs).map fun k => i + offset (c :: cs) k := by
      intro skip hskip
      rw [ih _ _ hskip, placesFrom_succ, List.map_map]
      apply List.map_congr_left
      intro k _
      simp only [Function.comp_apply, offset_cons_succ]
      omega
    cases skip with
    | succ skip =>
      have hc := hskip c List.mem_cons_self
      have hrest := hbehind skip fun x hx => hskip x (List.mem_cons_of_mem _ hx)
      rw [utf8Size_ascii hc] at hrest
      rw [encode_cons_ascii hc]
      exact hrest
    | zero =>
      cases hpre : word.isPrefixOf (c :: cs) with
      | true =>
        obtain ⟨hc, hbody⟩ := isAscii_of_isPrefixOf hne hword hpre
        have hrest := hbehind _ hbody
        rw [utf8Size_ascii hc] at hrest
        rw [placesFrom_encode_cons_of_isPrefix hword hc hpre, hrest, placesFrom, hpre, if_pos rfl,
          List.map_cons]
        rfl
      | false =>
        rw [placesFrom_encode_cons_of_not hne hword hpre, hbehind 0 (by simp), placesFrom, hpre,
          if_neg Bool.false_ne_true]

/-- Words of ASCII stand at the offsets of their places. -/
theorem places_encode {word : Text} (hne : word ≠ []) (hword : ∀ w ∈ word, isAscii w = true)
    (t : Text) : places (encode word) (encode t) = (places word t).map (offset t) := by
  unfold places
  rw [placesFrom_encode hne hword t 0 0 (by simp)]
  simp only [Nat.zero_add]

theorem place?_encode {word : Text} (hne : word ≠ []) (hword : ∀ w ∈ word, isAscii w = true)
    (t : Text) : place? (encode word) (encode t) = (place? word t).map (offset t) := by
  rw [place?, places_encode hne hword, List.head?_map]
  rfl

end Text

end NamedSql
