-- The cuts of a line. The classification can be carried out on the bytes of a line, by offsets that
-- are searched for, moved and used in other texts than the one in which they were found. Every
-- offset at which something is cut lies inside of its text and between two characters, so there
-- is a result in every case, and it is that of the classification by characters.
import Mathlib.Data.List.Find
import Mathlib.Data.Option.Basic
import NamedSql.Proofs.Bytes
import NamedSql.Proofs.Classes

namespace NamedSql

/-! ## The pure model -/

/-- The comments of a line by offsets among its bytes. -/
def Comments.inBytes (c : Comments) (line : Text) : Comments where
  block := c.block.map fun b => (Text.offset line b.1, Text.offset line b.2)
  dashes := c.dashes.map (Text.offset line)

/-- The key of a tag line as spelled, and what stands behind it. -/
def Tag.keyOf? (line : Text) : Option (Text × Text) := do
  let afterDashes ← expect? ['-', '-'] line
  let afterWord ← expect? ['t', 'a', 'g'] afterDashes
  let afterEquals ← expect? ['='] afterWord
  let fromKey := Text.skipBlanks afterEquals
  if (fromKey.takeWhile isKeyChar).isEmpty then none
  return (fromKey.takeWhile isKeyChar, fromKey.dropWhile isKeyChar)

namespace Offsets

/-- The offset is neither beyond the end of the text nor inside of a character. -/
structure InOrder (n : Nat) (t : Text) : Prop where
  le : n ≤ Text.byteLength t
  boundary : ∃ i, Text.offset t i = n

/-- The rest of the line starts at the offset. -/
def At (line : Text) (i : Nat) (rest : Text) : Prop :=
  ∃ before, line = before ++ rest ∧ Text.byteLength before = i

/-- The key stands between the offsets, and this is behind it. -/
def KeyAt (line : Text) (p : Nat × Nat) (k : Text × Text) : Prop :=
  ∃ before, line = before ++ (k.1 ++ k.2) ∧ Text.byteLength before = p.1 ∧
    Text.byteLength (before ++ k.1) = p.2

/-- Every offset at which a line is cut while it is classified. -/
structure CutsInOrder (line : Text) : Prop where
  /-- Behind the opening of the block comment. -/
  body : ∀ start, Text.place? (Text.encode ['/', '*']) (Text.encode line) = some start →
    InOrder (start + 2) line
  /-- Before the comment that dashes start. -/
  dashes : ∀ c, comments? line = some c → ∀ start, c.dashes = some start → InOrder start line
  /-- Before the terminator. It is looked for in the line without its comment. -/
  terminator : ∀ c code, comments? line = some c → code? c line = some code →
    ∀ i, terminator? c code = some i → InOrder i code
  /-- Before and behind the key of a tag. -/
  key : ∀ start stop, keyOffsets? (Text.encode line) = some (start, stop) →
    start ≤ stop ∧ InOrder start line ∧ InOrder stop line
  /-- Before the value of a tag. -/
  value : ∀ start stop, keyOffsets? (Text.encode line) = some (start, stop) →
    ∀ value, valueOffset? (Text.encode line) stop = some value → InOrder value line

/-! ## Cuts and windows -/

theorem cut?_offset (t : Text) (i : Nat) :
    cut? (Text.offset t i) t = some (t.take i, t.drop i) := by
  induction t generalizing i with
  | nil => simp [cut?, Text.offset, Text.byteLength]
  | cons c cs ih =>
    cases i with
    | zero => rfl
    | succ i =>
      have hpos := Char.utf8Size_pos c
      rw [Text.offset_cons_succ, cut?, if_neg (by omega), if_neg (by omega), Nat.add_sub_cancel_left,
        ih]
      rfl

theorem cut?_append (s t : Text) : cut? (Text.byteLength s) (s ++ t) = some (s, t) := by
  have hoffset : Text.byteLength s = Text.offset (s ++ t) s.length := by
    rw [Text.offset, List.take_left]
  rw [hoffset, cut?_offset, List.take_left, List.drop_left]

theorem inOrder_offset (t : Text) (i : Nat) : InOrder (Text.offset t i) t :=
  ⟨Text.offset_le_byteLength t i, i, rfl⟩

/-- A text can be cut where the offset is in order, and nowhere else. -/
theorem cut?_isSome_iff (n : Nat) (t : Text) : (cut? n t).isSome = true ↔ InOrder n t := by
  constructor
  · intro h
    induction t generalizing n with
    | nil =>
      obtain rfl : n = 0 := by simpa [cut?] using h
      exact inOrder_offset [] 0
    | cons c cs ih =>
      rw [cut?] at h
      split at h
      · rename_i hzero
        rw [hzero]
        exact inOrder_offset (c :: cs) 0
      · split at h
        · cases h
        · rw [Option.isSome_map] at h
          obtain ⟨-, i, hi⟩ := ih _ h
          have hn : n = Text.offset (c :: cs) (i + 1) := by
            rw [Text.offset_cons_succ]
            omega
          rw [hn]
          exact inOrder_offset _ _
  · rintro ⟨-, i, rfl⟩
    rw [cut?_offset]
    rfl

theorem window?_of_le {n : Nat} {bytes : List UInt8} (h : n ≤ bytes.length) :
    window? n bytes = some (bytes.take n) := if_pos h

theorem window?_isSome_iff (n : Nat) (bytes : List UInt8) :
    (window? n bytes).isSome = true ↔ n ≤ bytes.length := by
  unfold window?
  split <;> simp [*]

/-! ## Characters and bytes of one kind -/

theorem isAscii_toLower (c : Char) : Text.isAscii c.toLower = Text.isAscii c := by
  have hnat : ∀ d : Char, d.val.toNat = d.toNat := fun _ => rfl
  by_cases hup : c.isUpper = true
  · have hlow := Char.isLower_toLower_eq_isAlpha c
    rw [Char.isAlpha, hup, Bool.true_or, Text.isLower_iff, hnat] at hlow
    rw [Text.isUpper_iff, hnat] at hup
    simp only [Text.isAscii]
    rw [decide_eq_true (by omega), decide_eq_true (by omega)]
  · rw [Char.toLower_eq_of_not_isUpper hup]

theorem lowerByte_byteOf {c : Char} (h : Text.isAscii c = true) :
    lowerByte (Text.byteOf c) = Text.byteOf c.toLower :=
  Text.forall_ascii (P := fun c => lowerByte (Text.byteOf c) = Text.byteOf c.toLower)
    (by decide +kernel) c h

theorem lowerByte_high {b : UInt8} (h : 128 ≤ b.toNat) : lowerByte b = b := by
  have h90 : (90 : UInt8).toNat = 90 := rfl
  unfold lowerByte
  rw [if_neg]
  rw [UInt8.le_iff_toNat_le, UInt8.le_iff_toNat_le]
  omega

theorem picksAs_alike {w : Char} (hw : Text.isAscii w = true) :
    Text.PicksAs (fun b => lowerByte (Text.byteOf w) == lowerByte b) (Text.alike w) := by
  have hlow := Text.picksAs_eq (w := w.toLower) (by rwa [isAscii_toLower])
  constructor
  · intro c hc
    rw [lowerByte_byteOf hw, lowerByte_byteOf hc, hlow.ascii _ (by rwa [isAscii_toLower])]
    rfl
  · intro b hb
    rw [lowerByte_byteOf hw, lowerByte_high hb, hlow.byte b hb]
  · intro c hc
    exact hlow.char c.toLower (by rwa [isAscii_toLower])

theorem picksAs_isBlank : Text.PicksAs isBlankByte Text.isBlank where
  ascii := Text.forall_ascii (by decide +kernel)
  byte := by
    intro b hb
    simp only [isBlankByte, Bool.or_eq_false_iff, beq_eq_false_iff_ne, ne_eq, ← UInt8.toNat_inj]
    have hlow : ∀ n : Nat, n < 128 → b.toNat ≠ (UInt8.ofNat n).toNat := by
      intro n hn
      rw [UInt8.toNat_ofNat']
      omega
    exact ⟨⟨⟨⟨hlow 32 (by decide), hlow 9 (by decide)⟩, hlow 10 (by decide)⟩,
      hlow 12 (by decide)⟩, hlow 13 (by decide)⟩
  char := by
    intro c hc
    rw [Bool.eq_false_iff]
    intro h
    simp only [Text.isBlank, Bool.or_eq_true, beq_iff_eq] at h
    rcases h with (((rfl | rfl) | rfl) | rfl) | rfl <;> cases hc

theorem isAscii_of_isKeyChar {c : Char} (h : Tag.isKeyChar c = true) : Text.isAscii c = true := by
  have hnat : c.val.toNat = c.toNat := rfl
  have halnum : c.isAlphanum = (c.isAlpha || c.isDigit) := rfl
  have hdigit : c.isDigit = true → c.val.toNat ≤ 57 := by
    intro hd
    have hd : (decide (c.val ≥ '0'.val) && decide (c.val ≤ '9'.val)) = true := hd
    rw [Bool.and_eq_true, decide_eq_true_eq, decide_eq_true_eq] at hd
    exact UInt32.le_iff_toNat_le.1 hd.2
  rw [Tag.isKeyChar, halnum, Char.isAlpha] at h
  simp only [Bool.or_eq_true, beq_iff_eq, Text.isUpper_iff, Text.isLower_iff] at h
  simp only [Text.isAscii, decide_eq_true_eq]
  rcases h with (((h | h) | h) | rfl) | rfl
  · omega
  · omega
  · have := hdigit h
    omega
  · decide
  · decide

theorem picksAs_isKeyChar : Text.PicksAs isKeyByte Tag.isKeyChar where
  ascii := Text.forall_ascii (by decide +kernel)
  byte := by
    intro b hb
    have h57 : (57 : UInt8).toNat = 57 := rfl
    have h90 : (90 : UInt8).toNat = 90 := rfl
    have h122 : (122 : UInt8).toNat = 122 := rfl
    have h95 : (95 : UInt8).toNat = 95 := rfl
    have h45 : (45 : UInt8).toNat = 45 := rfl
    rw [Bool.eq_false_iff]
    intro h
    simp only [isKeyByte, Bool.or_eq_true, Bool.and_eq_true, decide_eq_true_eq, beq_iff_eq,
      UInt8.le_iff_toNat_le, ← UInt8.toNat_inj] at h
    omega
  char := by
    intro c hc
    rw [Bool.eq_false_iff]
    intro h
    rw [isAscii_of_isKeyChar h] at hc
    cases hc

/-! ## Words in windows -/

/-- A window at the head of a text spells a word if the text starts with it. -/
theorem spells_window? {word : Text} (hword : ∀ w ∈ word, Text.isAscii w = true) (t : Text) :
    (window? word.length (Text.encode t)).any (spells word) = Text.startsWithWord word t := by
  induction word generalizing t with
  | nil => rfl
  | cons w ws ih =>
    have hw := hword w List.mem_cons_self
    have hpick := picksAs_alike hw
    have ih := ih fun x hx => hword x (List.mem_cons_of_mem _ hx)
    have hbytes : ∀ b (bs : List UInt8), (window? (ws.length + 1) (b :: bs)).any (spells (w :: ws)) =
        ((lowerByte (Text.byteOf w) == lowerByte b) &&
          (window? ws.length bs).any (spells ws)) := by
      intro b bs
      simp only [window?, List.length_cons, Nat.add_le_add_iff_right]
      split
      · simp only [Option.any_some, List.take_succ_cons, spells, Text.encode_cons_ascii hw,
          List.map_cons, List.cons_beq_cons]
        rw [Bool.beq_comm (a := lowerByte b)]
      · simp
    cases t with
    | nil => rfl
    | cons c cs =>
      rw [Text.startsWithWord_cons_cons, List.length_cons]
      rcases Text.encode_cons_cases c cs with ⟨hc, henc⟩ | ⟨hc, b, bs, henc, hhigh⟩
      · rw [henc, hbytes, hpick.ascii c hc, ih]
      · rw [henc, hbytes, hpick.byte b hhigh, hpick.char c hc, Bool.false_and, Bool.false_and]

/-- Windows spell one of the words if the text starts with one of them. -/
theorem any_spells_window? {words : List Text}
    (hwords : words.all (fun word => word.all Text.isAscii) = true) {bytes : List UInt8} {t : Text}
    (hbytes : ∀ word ∈ words, window? word.length bytes =
      window? word.length (Text.encode t)) :
    (words.any fun word => (window? word.length bytes).any (spells word)) =
      words.any (Text.startsWithWord · t) := by
  rw [Bool.eq_iff_iff, List.any_eq_true, List.any_eq_true]
  apply exists_congr
  intro word
  apply and_congr_right
  intro hword
  have hascii := List.all_eq_true.1 (List.all_eq_true.1 hwords word hword)
  rw [hbytes word hword, spells_window? hascii]

/-- A shorter window inside of a longer one is a window at the head. -/
theorem window?_take {m n : Nat} {bytes : List UInt8} (hmn : m ≤ n) (hn : n ≤ bytes.length) :
    window? m (bytes.take n) = window? m bytes := by
  rw [window?_of_le (by rw [List.length_take]; omega), window?_of_le (by omega), List.take_take,
    Nat.min_eq_left hmn]

theorem spells_take {word t : Text} (hword : word.all Text.isAscii = true)
    (h : word.length ≤ (Text.encode t).length) :
    spells word ((Text.encode t).take word.length) = Text.startsWithWord word t := by
  rw [← spells_window? (List.all_eq_true.1 hword), window?_of_le h]
  rfl

/-! ## Comments and terminator -/

theorem blockOf?_eq (line : Text) :
    blockOf? line = some ((Comments.blockOf line).map fun b =>
      (Text.offset line b.1, Text.offset line b.2)) := by
  have hopening : ∀ w ∈ ['/', '*'], Text.isAscii w = true := List.all_eq_true.1 (by decide)
  have hclosing : ∀ w ∈ ['*', '/'], Text.isAscii w = true := List.all_eq_true.1 (by decide)
  unfold blockOf? Comments.blockOf
  rw [Text.place?_encode (by decide) hopening]
  cases hstart : Text.place? ['/', '*'] line with
  | none => rfl
  | some start =>
    have hword := Text.isPrefix_drop_of_mem_places (Text.mem_places_of_place? hstart)
    have hbody : Text.offset line start + 2 = Text.offset line (start + 2) :=
      (Text.offset_add_word hopening hword).symm
    simp only [Option.map_some, hbody, cut?_offset, Option.bind_eq_bind, Option.bind_some]
    rw [Text.place?_encode (by decide) hclosing]
    cases hclose : Text.place? ['*', '/'] (line.drop (start + 2)) with
    | none => simp [Text.offset_length]
    | some close =>
      have hword := Text.isPrefix_drop_of_mem_places (Text.mem_places_of_place? hclose)
      have hend := Text.offset_add_word hclosing hword
      have hwhole := Text.offset_add line (start + 2) (close + 2)
      simp only [List.length_cons, List.length_nil, Nat.zero_add, Nat.reduceAdd] at hend
      rw [hend] at hwhole
      simp only [Option.map_some, Nat.add_assoc] at hwhole ⊢
      rw [hwhole]
      rfl

/-- A place inside of a line is covered if its offset is. -/
theorem inBlock_offset {line : Text} {i : Nat} (hi : i < line.length)
    (block : Option (Nat × Nat)) :
    Comments.inBlock (block.map fun b => (Text.offset line b.1, Text.offset line b.2))
      (Text.offset line i) = Comments.inBlock block i := by
  cases block with
  | none => rfl
  | some b =>
    have hend : Text.offset line i < Text.offset line b.2 ↔ i < b.2 := by
      rw [← Nat.not_le, Text.offset_le_iff hi, Nat.not_le]
    simp [Comments.inBlock, Text.offset_le_iff hi, hend]

theorem hides_inBytes {line : Text} {i : Nat} (hi : i < line.length) (c : Comments) :
    (c.inBytes line).hides (Text.offset line i) = c.hides i := by
  unfold Comments.hides Comments.inBytes
  rw [inBlock_offset hi]
  cases c.dashes with
  | none => rfl
  | some d => simp [Text.offset_le_iff hi]

theorem lt_length_of_mem_places {word t : Text} {i : Nat} (h : i ∈ Text.places word t) :
    i < t.length := by
  obtain ⟨k, rfl, -, hlen, -⟩ := Text.mem_placesFrom h
  omega

theorem comments?_eq (line : Text) : comments? line = some ((Comments.scan line).inBytes line) := by
  have hword : ∀ w ∈ ['-', '-'], Text.isAscii w = true := List.all_eq_true.1 (by decide)
  have hfind : (Text.places (Text.encode ['-', '-']) (Text.encode line)).find? (fun i =>
      !Comments.inBlock ((Comments.blockOf line).map fun b =>
        (Text.offset line b.1, Text.offset line b.2)) i) =
      (Comments.scan line).dashes.map (Text.offset line) := by
    rw [Text.places_encode (by decide) hword, List.find?_map]
    congr 1
    apply List.find?_congr
    intro i hi
    rw [Function.comp_apply, inBlock_offset (lt_length_of_mem_places hi)]
  unfold comments?
  rw [blockOf?_eq, Option.bind_eq_bind, Option.bind_some, hfind]
  rfl

theorem code?_eq (c : Comments) (line : Text) :
    code? (c.inBytes line) line = some (c.code line) := by
  unfold code? Comments.code Comments.inBytes
  cases c.dashes with
  | none => rfl
  | some start => simp [cut?_offset]

/-- The terminator is looked for in a part of the line for which the comments were found. -/
theorem terminator?_eq {code line : Text} (h : code <+: line) (c : Comments) :
    terminator? (c.inBytes line) code = (c.terminator? code).map (Text.offset code) := by
  have hword : ∀ w ∈ [';'], Text.isAscii w = true := List.all_eq_true.1 (by decide)
  unfold terminator? Comments.terminator?
  rw [Text.places_encode (by decide) hword, List.find?_map]
  congr 1
  apply List.find?_congr
  intro i hi
  have hcode := lt_length_of_mem_places hi
  have hline : i < line.length := Nat.lt_of_lt_of_le hcode h.length_le
  rw [Function.comp_apply, Text.offset_of_isPrefix h (Nat.le_of_lt hcode), hides_inBytes hline]

theorem isTerminated?_eq (line : Text) : isTerminated? line = some (Line.isTerminated line) := by
  unfold isTerminated? Line.isTerminated
  rw [comments?_eq, Option.bind_eq_bind, Option.bind_some, terminator?_eq (List.prefix_refl _),
    Option.isSome_map]
  rfl

theorem ofCode?_eq (line : Text) : ofCode? line = some (Line.ofCode line) := by
  have hprefix := Comments.code_isPrefix (Comments.scan line) line
  unfold ofCode? Line.ofCode
  simp only [comments?_eq, code?_eq, Option.bind_eq_bind, Option.bind_some, terminator?_eq hprefix]
  cases (Comments.scan line).terminator? ((Comments.scan line).code line) with
  | none => rfl
  | some i => simp [cut?_offset]

/-! ## Tags -/

theorem At.drop_encode {line rest : Text} {i : Nat} (h : At line i rest) :
    (Text.encode line).drop i = Text.encode rest := by
  obtain ⟨before, rfl, rfl⟩ := h
  rw [Text.encode_append, ← Text.length_encode, List.drop_left]

theorem At.inOrder {line rest : Text} {i : Nat} (h : At line i rest) : InOrder i line := by
  obtain ⟨before, rfl, rfl⟩ := h
  rw [← cut?_isSome_iff, cut?_append]
  rfl

/-- What stands behind a part of the rest starts at an offset too. -/
theorem At.behind {line part rest : Text} {i : Nat} (h : At line i (part ++ rest)) :
    At line (i + Text.byteLength part) rest := by
  obtain ⟨before, rfl, rfl⟩ := h
  exact ⟨before ++ part, by rw [List.append_assoc], Text.byteLength_append before part⟩

theorem At.behindBlanks {line rest : Text} {i : Nat} (h : At line i rest) :
    At line (behindBlanks (Text.encode line) i) (Text.skipBlanks rest) := by
  have hsplit : rest.takeWhile Text.isBlank ++ Text.skipBlanks rest = rest :=
    List.takeWhile_append_dropWhile
  unfold Offsets.behindBlanks
  rw [h.drop_encode, Text.takeWhile_encode picksAs_isBlank, Text.length_encode]
  rw [← hsplit] at h
  exact h.behind

/-- However a word of ASCII is spelled, it has as many bytes as characters. -/
theorem byteLength_of_lower_eq {s word : Text} (hword : ∀ w ∈ word, Text.isAscii w = true)
    (h : s.map Char.toLower = word.map Char.toLower) : Text.byteLength s = word.length := by
  have hs : ∀ c ∈ s, Text.isAscii c = true := by
    intro c hc
    have hlow : c.toLower ∈ word.map Char.toLower := h ▸ List.mem_map_of_mem hc
    obtain ⟨w, hw, hsame⟩ := List.mem_map.1 hlow
    rw [← isAscii_toLower, ← hsame, isAscii_toLower]
    exact hword w hw
  rw [Text.byteLength_ascii hs, ← List.length_map, h, List.length_map]

/-- The scan by offsets meets the same word as the scan by characters, or neither meets one. -/
theorem At.expect? {line rest word : Text} {i : Nat} (h : At line i rest)
    (hascii : word.all Text.isAscii = true) :
    Option.Rel (At line) (expect? word (Text.encode line) i) (Tag.expect? word rest) := by
  have hword := List.all_eq_true.1 hascii
  have hstart := h.behindBlanks
  have hspells := spells_window? hword (Text.skipBlanks rest)
  unfold Offsets.expect? Tag.expect?
  simp only [hstart.drop_encode]
  cases hdrop : Text.dropWord? word (Text.skipBlanks rest) with
  | none =>
    rw [Text.startsWithWord, hdrop] at hspells
    cases hpart : window? word.length (Text.encode (Text.skipBlanks rest)) with
    | none => exact .none
    | some part =>
      rw [hpart] at hspells
      have hnot : spells word part = false := hspells
      simp only [Option.bind_eq_bind, Option.bind_some, hnot]
      exact .none
  | some r =>
    rw [Text.startsWithWord, hdrop] at hspells
    cases hpart : window? word.length (Text.encode (Text.skipBlanks rest)) with
    | none =>
      rw [hpart] at hspells
      cases hspells
    | some part =>
      rw [hpart] at hspells
      have hyes : spells word part = true := hspells
      obtain ⟨s, hs, hlower⟩ := Text.dropWord?_eq_some_iff.1 hdrop
      rw [hs] at hstart
      simp only [Option.bind_eq_bind, Option.bind_some, hyes, if_true]
      rw [← byteLength_of_lower_eq hword hlower]
      exact .some hstart.behind

/-- Two scans that go on alike from related results come to related results. -/
theorem rel_bind {α β γ δ : Type} {r : α → β → Prop} {q : γ → δ → Prop} {a : Option α}
    {b : Option β} {f : α → Option γ} {g : β → Option δ} (h : Option.Rel r a b)
    (hnext : ∀ x y, r x y → Option.Rel q (f x) (g y)) : Option.Rel q (a >>= f) (b >>= g) := by
  cases h with
  | none => exact .none
  | some hxy => exact hnext _ _ hxy

/-- Both scans find the same key, or neither finds one. -/
theorem keyOffsets?_rel (line : Text) :
    Option.Rel (KeyAt line) (keyOffsets? (Text.encode line)) (Tag.keyOf? line) := by
  have hline : At line 0 line := ⟨[], rfl, rfl⟩
  unfold keyOffsets? Tag.keyOf?
  refine rel_bind (hline.expect? (by decide)) fun afterDashes restDashes hdashes => ?_
  refine rel_bind (hdashes.expect? (by decide)) fun afterWord restWord htag => ?_
  refine rel_bind (htag.expect? (by decide)) fun afterEquals restEquals hequals => ?_
  obtain ⟨before, hsplit, hstart⟩ := hequals.behindBlanks
  have hrun := Text.takeWhile_encode picksAs_isKeyChar (Text.skipBlanks restEquals)
  have hkey : (Text.skipBlanks restEquals).takeWhile Tag.isKeyChar ++
      (Text.skipBlanks restEquals).dropWhile Tag.isKeyChar = Text.skipBlanks restEquals :=
    List.takeWhile_append_dropWhile
  simp only [hequals.behindBlanks.drop_encode, hrun, Text.length_encode]
  cases hempty : (Text.skipBlanks restEquals).takeWhile Tag.isKeyChar with
  | nil =>
    simp only [Text.byteLength, Nat.add_zero, List.isEmpty_nil, if_true]
    exact .none
  | cons k ks =>
    have hpos := Char.utf8Size_pos k
    rw [hempty] at hkey
    rw [if_neg (by simp only [Text.byteLength]; omega), if_neg (by simp)]
    refine .some ⟨before, ?_, hstart, ?_⟩
    · rw [hkey]
      exact hsplit
    · rw [Text.byteLength_append, hstart]

/-- The key of a tag line comes first, and then its value. -/
theorem ofLine?_eq_keyOf? (line : Text) :
    Tag.ofLine? line = (Tag.keyOf? line).bind fun k =>
      (Tag.expect? [':'] k.2).map fun afterColon =>
        ⟨Tag.lowerKey k.1, Text.skipBlanks afterColon⟩ := by
  unfold Tag.ofLine? Tag.keyOf?
  simp only [Option.bind_eq_bind, Option.bind_assoc]
  congr 1
  funext afterDashes
  congr 1
  funext afterWord
  congr 1
  funext afterEquals
  split
  · rfl
  · rw [Option.pure_def, Option.bind_some, Option.map_eq_bind]
    rfl

theorem KeyAt.slice? {line : Text} {p : Nat × Nat} {k : Text × Text} (h : KeyAt line p k) :
    slice? p.1 p.2 line = some k.1 := by
  obtain ⟨before, hline, hstart, hstop⟩ := h
  rw [← hstart, ← hstop, hline, ← List.append_assoc]
  simp only [Offsets.slice?, cut?_append, Option.bind_eq_bind, Option.bind_some]
  rfl

/-- What stands behind the key starts where the key ends. -/
theorem KeyAt.behind {line : Text} {p : Nat × Nat} {k : Text × Text} (h : KeyAt line p k) :
    At line p.2 k.2 := by
  obtain ⟨before, hline, -, hstop⟩ := h
  exact ⟨before ++ k.1, by rw [hline, List.append_assoc], hstop⟩

theorem KeyAt.inOrder {line : Text} {p : Nat × Nat} {k : Text × Text} (h : KeyAt line p k) :
    p.1 ≤ p.2 ∧ InOrder p.1 line ∧ InOrder p.2 line := by
  have hstop := h.behind.inOrder
  obtain ⟨before, hline, hstart, hlength⟩ := h
  rw [Text.byteLength_append] at hlength
  have hbegin : At line p.1 (k.1 ++ k.2) := ⟨before, hline, hstart⟩
  exact ⟨by omega, hbegin.inOrder, hstop⟩

/-- Both scans find a value behind the key, or neither finds one. -/
theorem KeyAt.valueOffset? {line : Text} {p : Nat × Nat} {k : Text × Text} (h : KeyAt line p k) :
    Option.Rel (At line) (valueOffset? (Text.encode line) p.2)
      ((Tag.expect? [':'] k.2).map Text.skipBlanks) := by
  unfold Offsets.valueOffset?
  have hcolon : Option.Rel (At line) (expect? [':'] (Text.encode line) p.2) (Tag.expect? [':'] k.2) :=
    h.behind.expect? (by decide)
  rw [Option.map_eq_bind]
  exact rel_bind hcolon fun _ _ hvalue => .some hvalue.behindBlanks

theorem exists_keyAt {line : Text} {p : Nat × Nat}
    (h : keyOffsets? (Text.encode line) = some p) : ∃ k, KeyAt line p k := by
  have hrel := keyOffsets?_rel line
  rw [h] at hrel
  generalize Tag.keyOf? line = parts at hrel
  cases hrel with
  | some hkey => exact ⟨_, hkey⟩

theorem tag?_eq (line : Text) : tag? line = some (Tag.ofLine? line) := by
  have hrel := keyOffsets?_rel line
  rw [ofLine?_eq_keyOf?, tag?]
  generalize keyOffsets? (Text.encode line) = offsets at hrel
  generalize Tag.keyOf? line = parts at hrel
  cases hrel with
  | none => rfl
  | @some p k hkey =>
    have hvalue := hkey.valueOffset?
    simp only [hkey.slice?, Option.bind_eq_bind, Option.bind_some]
    generalize valueOffset? (Text.encode line) p.2 = start at hvalue
    cases hcolon : Tag.expect? [':'] k.2 with
    | none =>
      rw [hcolon] at hvalue
      cases hvalue
      rfl
    | some afterColon =>
      rw [hcolon] at hvalue
      cases hvalue with
      | some hrest =>
        obtain ⟨before, hline, hoffset⟩ := hrest
        have hcut := cut?_append before (Text.skipBlanks afterColon)
        rw [hoffset, ← hline] at hcut
        simp only [hcut, Option.bind_some, Option.map_some]
        rfl

/-! ## Lines and kinds -/

theorem startsWithOne_controlWords (line : Text) :
    startsWithOne Line.controlWords line = Line.startsControl line :=
  any_spells_window? (by decide) fun _ _ => rfl

theorem classify?_eq (raw : Text) : classify? raw = some (Line.classify raw) := by
  unfold classify? Line.classify Line.ofTrimmed
  simp only [startsWithOne_controlWords, tag?_eq, ofCode?_eq, Option.bind_eq_bind, Option.bind_some]
  split
  · rfl
  · split
    · rfl
    · cases Tag.ofLine? (Text.trim raw) with
      | some t => rfl
      | none =>
        dsimp only
        split <;> rfl

theorem kind?_eq (t : Text) : kind? t = some (Kind.ofText t) := by
  unfold kind? Kind.ofText
  rw [Text.length_encode]
  split
  · rfl
  · rename_i hlong
    have hten : 10 ≤ (Text.encode t).length := by
      rw [Text.length_encode]
      exact Nat.le_of_not_lt hlong
    have hsix : 6 ≤ (Text.encode t).length := by omega
    have hdml : (Kind.dmlWords.any fun word =>
        (window? word.length ((Text.encode t).take 6)).any (spells word)) =
          Kind.dmlWords.any (Text.startsWithWord · t) := by
      have hshort : ∀ word ∈ Kind.dmlWords, word.length ≤ 6 := by decide
      exact any_spells_window? (by decide) fun word hword => window?_take (hshort word hword) hsix
    have hselect : spells "select".toList ((Text.encode t).take 6) =
        Text.startsWithWord "select".toList t := spells_take (by decide) hsix
    have hcreate : spells "create".toList ((Text.encode t).take 6) =
        Text.startsWithWord "create".toList t := spells_take (by decide) hsix
    have htable : spells "drop table".toList ((Text.encode t).take 10) =
        Text.startsWithWord "drop table".toList t := spells_take (by decide) hten
    have hindex : spells "drop index".toList ((Text.encode t).take 10) =
        Text.startsWithWord "drop index".toList t := spells_take (by decide) hten
    rw [window?_of_le hsix, window?_of_le hten]
    simp only [Option.bind_eq_bind, Option.bind_some, hdml, hselect, hcreate, htable, hindex,
      Kind.ofWords, Kind.dqlWords, Kind.ddlWords, List.any_cons, List.any_nil, Bool.or_false]
    split
    · rfl
    · split
      · rfl
      · cases Text.startsWithWord "create".toList t with
        | true => rfl
        | false =>
          simp only [Bool.false_or, Bool.false_eq_true, if_false]
          split <;> rfl

/-! ## The laws -/

theorem cutsInOrder (line : Text) : CutsInOrder line where
  body := by
    intro start hstart
    have hopening : ∀ w ∈ ['/', '*'], Text.isAscii w = true := List.all_eq_true.1 (by decide)
    rw [Text.place?_encode (by decide) hopening] at hstart
    obtain ⟨i, hi, rfl⟩ := Option.map_eq_some_iff.1 hstart
    have hword := Text.isPrefix_drop_of_mem_places (Text.mem_places_of_place? hi)
    have hbody : Text.offset line i + 2 = Text.offset line (i + 2) :=
      (Text.offset_add_word hopening hword).symm
    rw [hbody]
    exact inOrder_offset line (i + 2)
  dashes := by
    intro c hc start hstart
    obtain rfl : (Comments.scan line).inBytes line = c := by simpa [comments?_eq] using hc
    obtain ⟨i, -, rfl⟩ := Option.map_eq_some_iff.1 hstart
    exact inOrder_offset line i
  terminator := by
    intro c code hc hcode i hi
    obtain rfl : (Comments.scan line).inBytes line = c := by simpa [comments?_eq] using hc
    obtain rfl : (Comments.scan line).code line = code := by simpa [code?_eq] using hcode
    rw [terminator?_eq (Comments.code_isPrefix _ _)] at hi
    obtain ⟨k, -, rfl⟩ := Option.map_eq_some_iff.1 hi
    exact inOrder_offset _ k
  key := by
    intro start stop h
    obtain ⟨k, hkey⟩ := exists_keyAt h
    exact hkey.inOrder
  value := by
    intro start stop h value hvalue
    obtain ⟨k, hkey⟩ := exists_keyAt h
    have hrel := hkey.valueOffset?
    rw [hvalue] at hrel
    generalize (Tag.expect? [':'] k.2).map Text.skipBlanks = rest at hrel
    cases hrel with
    | some hrest => exact hrest.inOrder

/-- Whatever characters stand in a line, every offset at which it is cut lies inside of what is
cut and between two characters, and no window goes beyond the end of the bytes. So the
classification by offsets comes to a result for every line, in each of its parts, and the
result is that of the classification by characters. -/
theorem every_cut_of_a_line_is_in_order :
    (∀ n t, (cut? n t).isSome = true ↔ InOrder n t) ∧
    (∀ n bytes, (window? n bytes).isSome = true ↔ n ≤ bytes.length) ∧
    ∀ line, CutsInOrder line ∧
      comments? line = some ((Comments.scan line).inBytes line) ∧
      code? ((Comments.scan line).inBytes line) line = some ((Comments.scan line).code line) ∧
      isTerminated? line = some (Line.isTerminated line) ∧
      tag? line = some (Tag.ofLine? line) ∧
      classify? line = some (Line.classify line) ∧
      startsWithOne Line.controlWords line = Line.startsControl line ∧
      kind? line = some (Kind.ofText line) :=
  ⟨cut?_isSome_iff, window?_isSome_iff, fun line => ⟨cutsInOrder line, comments?_eq line,
    code?_eq _ line, isTerminated?_eq line, tag?_eq line, classify?_eq line,
    startsWithOne_controlWords line, kind?_eq line⟩⟩

-- A cut inside of a character fails, and no cut of a line with wide characters at its marks does.
example : cut? 1 "é;".toList = none := by decide

example : classify? "é/*ü;--*/ß;ö".toList = some (.terminated "é/*ü;--*/ß".toList) := by
  decide +kernel

end Offsets

end NamedSql
