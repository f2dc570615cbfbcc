-- What a classified line holds, and what a statement of a script holds. Every part of a line
-- stands in the line, the key of a tag is a key in lower case, its value has no blank at the
-- head and no white space at the end, and its code is trimmed. The name and the tags of a
-- statement come from such tags, its text is put together from such code, and nothing of it
-- goes over a line.
import NamedSql.Proofs.NormalLines
import NamedSql.Proofs.Segments

namespace NamedSql

/-! ## Sound lines -/

/-- The key is a key in lower case, and no white space around the value is left. -/
structure Tag.Sound (t : Tag) : Prop where
  key_ne : t.key ≠ []
  key : ∀ c ∈ t.key, Tag.isKeyChar c = true
  lower : Tag.lowerKey t.key = t.key
  head : ∀ c, t.value.head? = some c → Text.isBlank c = false
  last : ∀ c, t.value.getLast? = some c → Text.isSpace c = false

namespace Line

/-- The part of a line that counts. -/
def part? : Line → Option Text
  | .name value | .tag _ value => some value
  | .fragment code | .terminated code => some code
  | .blank | .control | .comment => none

/-- What is known of every line that has been classified. -/
def Sound : Line → Prop
  | .name value => Tag.Sound ⟨nameKey, value⟩
  | .tag key value => key ≠ nameKey ∧ Tag.Sound ⟨key, value⟩
  | .fragment code | .terminated code =>
    Text.Trimmed code ∧ (¬ ['/', '*'] <:+: code → PlainCode code)
  | .blank | .control | .comment => True

/-! ## Tags -/

theorem lowerKey_lowerKey (key : Text) : Tag.lowerKey (Tag.lowerKey key) = Tag.lowerKey key := by
  unfold Tag.lowerKey
  rw [List.map_map]
  apply List.map_congr_left
  intro c _
  exact Char.toLower_toLower_eq_toLower c

theorem value_isSuffix {line : Text} {t : Tag} (h : Tag.ofLine? line = some t) :
    t.value <:+ line := by
  obtain ⟨s, -, rfl, rfl⟩ := Tag.spelling_of_ofLine? h
  exact List.suffix_append _ _

theorem getLast?_of_isSuffix {s t : Text} {c : Char} (h : s <:+ t) (hc : s.getLast? = some c) :
    t.getLast? = some c := by
  rw [← List.head?_reverse] at hc ⊢
  exact Text.head?_of_isPrefix (List.reverse_prefix.2 h) hc

theorem sound_of_ofLine? {raw : Text} {t : Tag} (h : Tag.ofLine? (Text.trim raw) = some t) :
    t.Sound := by
  have hsuffix := value_isSuffix h
  obtain ⟨s, hs, -, rfl⟩ := Tag.spelling_of_ofLine? h
  exact {
    key_ne := by simpa [Tag.Spelling.tag, Tag.lowerKey] using hs.key_ne
    key := by
      intro c hc
      obtain ⟨d, hd, rfl⟩ := List.mem_map.1 hc
      exact Tag.isKeyChar_toLower (hs.key d hd)
    lower := lowerKey_lowerKey s.key
    head := hs.value
    last := fun c hc => (Text.trimmed_trim raw).last c (getLast?_of_isSuffix hsuffix hc) }

/-- A sound tag comes back from its line. -/
theorem classify_sound {key value : Text} (h : Tag.Sound ⟨key, value⟩) :
    classify (Tag.line key value) = ofTag ⟨key, value⟩ := by
  have hlower : Tag.lowerKey key = key := h.lower
  rw [classify_tagLine h.key_ne h.key h.head h.last, hlower]

/-! ## All lines -/

theorem sound_classify (raw : Text) : (classify raw).Sound := by
  have hcode : ∀ code, (classify raw).code? = some code →
      Text.Trimmed code ∧ (¬ ['/', '*'] <:+: code → PlainCode code) :=
    fun code h => ⟨trimmed_code h, plainCode_of_code? h⟩
  generalize hl : classify raw = l at hcode
  cases hl ▸ outcome raw with
  | blank | control | comment => trivial
  | code hline =>
    obtain ⟨code, hof | hof⟩ := ofCode_cases (Text.trim raw)
    all_goals
      rw [hof] at hcode ⊢
      exact hcode code rfl
  | @tag t ht =>
    have hsound := sound_of_ofLine? ht
    obtain ⟨key, value⟩ := t
    unfold ofTag
    split
    · rename_i hkey
      obtain rfl : key = nameKey := hkey
      exact hsound
    · rename_i hkey
      exact ⟨hkey, hsound⟩

/-- The part of a line that counts stands in the line. -/
theorem part_infix {raw part : Text} (h : (classify raw).part? = some part) : part <:+: raw := by
  refine List.IsInfix.trans ?_ (Text.trim_infix raw)
  have hcode : ∀ code, (classify raw).code? = some code → code <:+: Text.trim raw :=
    fun code h => (code_isPrefix h).isInfix
  generalize hl : classify raw = l at h hcode
  cases hl ▸ outcome raw with
  | blank | control | comment => simp [part?] at h
  | code hline =>
    obtain ⟨code, hof | hof⟩ := ofCode_cases (Text.trim raw)
    all_goals
      rw [hof] at hcode h
      exact hcode part h
  | @tag t ht =>
    have hvalue := (value_isSuffix ht).isInfix
    unfold ofTag at h
    split at h <;> rwa [← Option.some.inj h]

end Line

/-! ## Sound statements -/

/-- The tags of a statement come from sound tag lines, and its text is plain if no block
comment opens in it. -/
structure Statement.Sound (s : Statement) : Prop where
  name : Tag.Sound ⟨Line.nameKey, s.name⟩
  named : s.tags.get? Line.nameKey = some s.name
  tags : ∀ e ∈ s.otherTags, Tag.Sound ⟨e.1, e.2⟩
  text : ¬ ['/', '*'] <:+: s.text → Line.PlainCode s.text
  kept : Draft.keptText s.kind s.text = s.text

/-- No part of the statement has a line feed. -/
structure Statement.Unbroken (s : Statement) : Prop where
  name : '\n' ∉ s.name
  tags : ∀ e ∈ s.otherTags, '\n' ∉ e.2
  text : '\n' ∉ s.text

/-! ## The statement of a segment of sound lines -/

namespace Draft

theorem keptText_keptText (kind : Kind) (t : Text) :
    keptText kind (keptText kind t) = keptText kind t := by
  unfold keptText
  split
  · rfl
  · exact Colons.escape_escape t

theorem mem_keptText {kind : Kind} {t : Text} {x : Char} : x ∈ keptText kind t ↔ x ∈ t := by
  unfold keptText
  split
  · rfl
  · exact Colons.mem_escape

theorem isInfix_keptText {x y : Char} (hx : x ≠ ':') {kind : Kind} {t : Text} :
    [x, y] <:+: keptText kind t ↔ [x, y] <:+: t := by
  unfold keptText
  split
  · rfl
  · exact Colons.isInfix_escape hx

theorem plainCode_keptText {t : Text} (kind : Kind) (h : Line.PlainCode t) :
    Line.PlainCode (keptText kind t) := by
  unfold keptText
  split
  · exact h
  · exact h.escape

end Draft

namespace Segment

theorem code?_of_codeOf? {l : Line} {code : Text} (h : codeOf? l = some code) :
    l.code? = some code := by
  cases l with
  | fragment c | terminated c =>
    simp only [codeOf?] at h
    split at h
    · simp at h
    · exact h
  | _ => simp [codeOf?] at h

theorem counted_subset (s : Segment) : s.counted ⊆ s.body := by
  intro l hl
  rcases List.mem_append.1 hl with hl | hl
  · exact (List.takeWhile_prefix _).subset hl
  · exact List.mem_of_find?_eq_some (Option.mem_toList.1 hl)

/-- Every tag of a segment is its name or stands on a line of it. -/
theorem mem_foldl_addTag {ls : List Line} {tags : Tags} {e : Text × Text}
    (h : e ∈ (ls.foldl addTag tags).entries) : e ∈ tags.entries ∨ Line.tag e.1 e.2 ∈ ls := by
  induction ls generalizing tags with
  | nil => exact Or.inl h
  | cons l ls ih =>
    rcases ih h with he | he
    · cases l with
      | tag key value =>
        rcases Tags.mem_insertEntry he with rfl | he
        · exact Or.inr List.mem_cons_self
        · exact Or.inl he
      | _ => exact Or.inl he
    · exact Or.inr (List.mem_cons_of_mem _ he)

/-- Tag lines leave the name as it is. -/
theorem get?_name_foldl {ls : List Line} (h : ∀ l ∈ ls, l.Sound) (tags : Tags) :
    (ls.foldl addTag tags).get? Line.nameKey = tags.get? Line.nameKey := by
  induction ls generalizing tags with
  | nil => rfl
  | cons l ls ih =>
    rw [List.foldl_cons, ih fun x hx => h x (List.mem_cons_of_mem _ hx)]
    cases l with
    | tag key value =>
      obtain ⟨hkey, -⟩ : key ≠ Line.nameKey ∧ _ := h _ List.mem_cons_self
      change (tags.insert key value).get? Line.nameKey = _
      rw [Tags.get?_insert, if_neg hkey]
    | _ => rfl

/-- Another tag of the statement stands on a line of the segment that counts. -/
theorem mem_counted_of_otherTags {s : Segment} {ordinal : Nat} {e : Text × Text}
    (he : e ∈ (s.statement ordinal).otherTags) : Line.tag e.1 e.2 ∈ s.counted := by
  obtain ⟨hmem, hne⟩ := List.mem_filter.1 he
  rcases mem_foldl_addTag hmem with hname | htag
  · rcases Tags.mem_insertEntry hname with rfl | hnil
    · simp at hne
    · exact absurd hnil List.not_mem_nil
  · exact htag

variable {s : Segment} (h : ∀ l ∈ s.lines, l.Sound)
include h

theorem sound_counted : ∀ l ∈ s.counted, l.Sound := fun l hl =>
  h l (List.mem_cons_of_mem _ (s.counted_subset hl))

theorem get?_name_tags : s.tags.get? Line.nameKey = some s.value := by
  unfold tags
  rw [get?_name_foldl (sound_counted h), Tags.single, Tags.get?_insert, if_pos rfl]

theorem name_statement (ordinal : Nat) : (s.statement ordinal).name = s.value := by
  unfold Statement.name statement
  rw [get?_name_tags h]
  rfl

/-- The text of a segment is plain if no block comment opens in it. -/
theorem plainCode_text (hblock : ¬ ['/', '*'] <:+: s.text) : Line.PlainCode s.text := by
  refine (Line.plainCode_intercalate ?_).1
  intro code hcode
  have hfree : ¬ ['/', '*'] <:+: code := fun hc => hblock (hc.trans (Text.infix_intercalate hcode _))
  obtain ⟨l, hl, hl?⟩ := List.mem_filterMap.1 hcode
  have hsound := sound_counted h l hl
  have hcode? := code?_of_codeOf? hl?
  cases l with
  | fragment c | terminated c =>
    obtain rfl := Option.some.inj hcode?
    exact ⟨hsound.2 hfree, Draft.codeOf?_ne_nil hl?⟩
  | _ => simp [Line.code?] at hcode?

theorem sound_statement (ordinal : Nat) : (s.statement ordinal).Sound := by
  have hname := name_statement h ordinal
  constructor
  · rw [hname]
    exact h _ List.mem_cons_self
  · rw [hname]
    exact get?_name_tags h
  · intro e he
    exact (sound_counted h _ (mem_counted_of_otherTags he)).2
  · intro hblock
    apply Draft.plainCode_keptText
    apply plainCode_text h
    intro hc
    exact hblock ((Draft.isInfix_keptText (by decide)).2 hc)
  · exact Draft.keptText_keptText _ _

theorem unbroken_statement (ordinal : Nat)
    (hfree : ∀ l ∈ s.lines, ∀ part, l.part? = some part → '\n' ∉ part) :
    (s.statement ordinal).Unbroken := by
  have hcounted : ∀ l ∈ s.counted, ∀ part, l.part? = some part → '\n' ∉ part :=
    fun l hl => hfree l (List.mem_cons_of_mem _ (s.counted_subset hl))
  constructor
  · rw [name_statement h]
    exact hfree _ List.mem_cons_self _ rfl
  · intro e he
    exact hcounted _ (mem_counted_of_otherTags he) _ rfl
  · change '\n' ∉ Draft.keptText _ s.text
    rw [Draft.mem_keptText]
    intro hx
    rcases Text.mem_intercalate hx with hsep | ⟨code, hcode, hx⟩
    · exact absurd hsep (by decide)
    · obtain ⟨l, hl, hl?⟩ := List.mem_filterMap.1 hcode
      have hcode? := code?_of_codeOf? hl?
      cases l with
      | fragment c | terminated c => exact hcounted _ hl _ hcode? hx
      | _ => simp [Line.code?] at hcode?

end Segment

end NamedSql
