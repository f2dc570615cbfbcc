-- Texts: the words at their heads and inside of them, the white space at their ends, the
-- lines they fall into, and their bytes in UTF-8. Cutting a text at a mark loses nothing
-- but the marks, and there is one way only to cut.

namespace NamedSql

/-- A text is the list of its characters. -/
abbrev Text := List Char

namespace Text

/-! ## A word at the head -/

/-- Two characters are alike if they differ at most in the case of an ASCII letter. -/
def alike (a b : Char) : Bool := a.toLower == b.toLower

/-- What follows `word` at the head of a text, if a text alike stands there. -/
def dropWord? : Text → Text → Option Text
  | [], t => some t
  | _ :: _, [] => none
  | w :: ws, c :: cs => if alike w c then dropWord? ws cs else none

def startsWithWord (word t : Text) : Bool := (dropWord? word t).isSome

/-! ## The places of a word -/

/-- The places of `word` in a sequence that starts at place `i`. The first
`skip` items belong to a place already found. -/
def placesFrom {α : Type} [BEq α] (word : List α) : Nat → Nat → List α → List Nat
  | _, _, [] => []
  | i, skip + 1, _ :: cs => placesFrom word (i + 1) skip cs
  | i, 0, c :: cs =>
    if word.isPrefixOf (c :: cs) then i :: placesFrom word (i + 1) (word.length - 1) cs
    else placesFrom word (i + 1) 0 cs

/-- The places where `word` stands, taken from left to right and without overlap. -/
def places {α : Type} [BEq α] (word t : List α) : List Nat := placesFrom word 0 0 t

/-- The first place where `word` stands. -/
def place? {α : Type} [BEq α] (word t : List α) : Option Nat := (places word t).head?

/-! ## White space

Two notions meet in a script: the white space of Unicode, which is trimmed from every line,
and the five ASCII blanks, which may stand between the parts of a tag. -/

/-- The ranges of the Unicode property `White_Space`. -/
def spaceRanges : List (Nat × Nat) :=
  [(0x9, 0xd), (0x20, 0x20), (0x85, 0x85), (0xa0, 0xa0), (0x1680, 0x1680), (0x2000, 0x200a),
   (0x2028, 0x2029), (0x202f, 0x202f), (0x205f, 0x205f), (0x3000, 0x3000)]

def inRanges (ranges : List (Nat × Nat)) (c : Char) : Bool :=
  ranges.any fun r => r.1 ≤ c.toNat && c.toNat ≤ r.2

/-- White space in the sense of Unicode. -/
def isSpace (c : Char) : Bool := inRanges spaceRanges c

/-- Space, tab, line feed, form feed and carriage return. The vertical tab
is white space and no blank. -/
def isBlank (c : Char) : Bool :=
  c == ' ' || c == '\t' || c == '\n' || c == '\x0c' || c == '\r'

theorem isSpace_of_isBlank (c : Char) (h : isBlank c = true) : isSpace c = true := by
  simp only [isBlank, Bool.or_eq_true, beq_iff_eq] at h
  rcases h with (((h | h) | h) | h) | h <;> subst h <;> decide

/-! ## Trimming -/

def trimStart (t : Text) : Text := t.dropWhile isSpace

def trimEnd (t : Text) : Text := (t.reverse.dropWhile isSpace).reverse

/-- A text without the white space at its two ends. -/
def trim (t : Text) : Text := trimEnd (trimStart t)

def skipBlanks (t : Text) : Text := t.dropWhile isBlank

/-! ## Cutting at a mark -/

/-- Cuts a sequence at every `mark`: the parts that a mark ends, without
the mark, and what follows the last mark. -/
def cutAt {α : Type} [DecidableEq α] (mark : α) : List α → List (List α) × List α
  | [] => ([], [])
  | c :: cs =>
    if c = mark then ([] :: (cutAt mark cs).1, (cutAt mark cs).2)
    else
      match cutAt mark cs with
      | ([], rest) => ([], c :: rest)
      | (part :: parts, rest) => ((c :: part) :: parts, rest)

/-- The parts, each with its mark behind it. -/
def joinEnded {α : Type} (mark : α) (parts : List (List α)) : List α := parts.flatMap (· ++ [mark])

/-- Parts with a mark between two of them are all parts but the last, each with its
mark, and the last. -/
theorem intercalate_concat {α : Type} (mark : α) (parts : List (List α)) (last : List α) :
    List.intercalate [mark] (parts ++ [last]) = joinEnded mark parts ++ last := by
  induction parts with
  | nil => simp [List.intercalate, joinEnded]
  | cons p ps ih =>
    have hne : ps ++ [last] ≠ [] := by simp
    obtain ⟨q, qs, hq⟩ := List.exists_cons_of_ne_nil hne
    rw [hq] at ih
    rw [List.cons_append, hq]
    simp_all [List.intercalate, joinEnded]

section
variable {α : Type} [DecidableEq α] {mark : α}

@[simp] theorem cutAt_nil : cutAt mark ([] : List α) = ([], []) := rfl

@[simp] theorem cutAt_mark_cons (cs : List α) :
    cutAt mark (mark :: cs) = ([] :: (cutAt mark cs).1, (cutAt mark cs).2) := by
  simp [cutAt]

/-- What was cut is the parts with their marks, and the rest. -/
theorem joinEnded_cutAt (t : List α) :
    joinEnded mark (cutAt mark t).1 ++ (cutAt mark t).2 = t := by
  induction t with
  | nil => rfl
  | cons c cs ih =>
    simp only [cutAt]
    split
    · rename_i h
      subst h
      simpa [joinEnded] using ih
    · rcases h : cutAt mark cs with ⟨_ | ⟨part, parts⟩, rest⟩ <;>
        simp_all [joinEnded]

/-- A sequence without marks is cut nowhere. -/
theorem cutAt_of_not_mem {t : List α} (h : mark ∉ t) : cutAt mark t = ([], t) := by
  induction t with
  | nil => rfl
  | cons c cs ih =>
    simp only [List.mem_cons, not_or] at h
    simp [cutAt, ih h.2, Ne.symm h.1]

/-- The first mark ends the first part. -/
theorem cutAt_append_mark {part : List α} (h : mark ∉ part) (t : List α) :
    cutAt mark (part ++ mark :: t) = (part :: (cutAt mark t).1, (cutAt mark t).2) := by
  induction part with
  | nil => simp
  | cons c cs ih =>
    simp only [List.mem_cons, not_or] at h
    simp [cutAt, ih h.2, Ne.symm h.1]

/-- Parts without marks come back when they are cut. -/
theorem cutAt_joinEnded {parts : List (List α)} {rest : List α} (h : ∀ p ∈ parts, mark ∉ p)
    (hrest : mark ∉ rest) : cutAt mark (joinEnded mark parts ++ rest) = (parts, rest) := by
  induction parts with
  | nil => exact cutAt_of_not_mem hrest
  | cons p ps ih =>
    have ih := ih fun q hq => h q (List.mem_cons_of_mem _ hq)
    simp only [joinEnded, List.flatMap_cons, List.append_assoc, List.cons_append,
      List.nil_append] at ih ⊢
    rw [cutAt_append_mark (h p List.mem_cons_self), ih]

/-- No mark is left in a part or in the rest. -/
theorem not_mem_cutAt (t : List α) :
    (∀ p ∈ (cutAt mark t).1, mark ∉ p) ∧ mark ∉ (cutAt mark t).2 := by
  induction t with
  | nil => simp
  | cons c cs ih =>
    simp only [cutAt]
    split
    · exact ⟨by simpa using ih.1, ih.2⟩
    · rename_i hc
      rcases h : cutAt mark cs with ⟨_ | ⟨part, parts⟩, rest⟩ <;>
        simp_all [Ne.symm hc]

end

/-! ## Lines

A line feed ends a line, and one carriage return before it belongs to the line end. What
follows the last line feed is a line too, unless it is empty. -/

/-- A line that a line feed ended, without the carriage return at its end. -/
def dropReturn (line : Text) : Text :=
  if line.getLast? = some '\r' then line.dropLast else line

/-- The lines of a text. Only an ended line loses its carriage return. -/
def lines (t : Text) : List Text :=
  (cutAt '\n' t).1.map dropReturn ++
    if (cutAt '\n' t).2.isEmpty then [] else [(cutAt '\n' t).2]

/-! ## Bytes in UTF-8 -/

/-- The bytes of a text. -/
def encode (t : Text) : List UInt8 := t.flatMap String.utf8EncodeChar

/-- The text that the bytes encode, if they encode one. -/
def decode? (bytes : List UInt8) : Option Text := bytes.toByteArray.utf8Decode?.map Array.toList

/-- The number of bytes of a text. -/
def byteLength : Text → Nat
  | [] => 0
  | c :: cs => c.utf8Size + byteLength cs

theorem length_encode (t : Text) : (encode t).length = byteLength t := by
  induction t with
  | nil => rfl
  | cons c cs ih => simp_all [encode, byteLength, String.length_utf8EncodeChar]

theorem toByteArray_encode (t : Text) : (encode t).toByteArray = t.utf8Encode := rfl

theorem decode?_encode (t : Text) : decode? (encode t) = some t := by
  simp [decode?, toByteArray_encode]

theorem eq_encode_of_decode? {bytes : List UInt8} {t : Text} (h : decode? bytes = some t) :
    bytes = encode t := by
  obtain ⟨a, ha, rfl⟩ := Option.map_eq_some_iff.1 h
  have := ByteArray.utf8Encode_get_utf8Decode? (b := bytes.toByteArray) (h := by simp [ha])
  simp only [ha, Option.get_some] at this
  rw [← toByteArray_encode] at this
  have := congrArg ByteArray.data this
  simpa using this.symm

end Text

end NamedSql
