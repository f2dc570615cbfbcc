-- The descriptions of statements. A description is read back line by line, since no part of a
-- statement of a script goes over a line and no key of a tag has a space. So it tells the text, the
-- kind and the tags, and nothing else, in whatever order the tags were given or are kept.
import NamedSql.Proofs.Rendered
import NamedSql.Proofs.Spellings

namespace NamedSql

/-! ## The pure model -/

/-- The order of tags in a description: by their keys, and then by their values. -/
def Tags.notAfter (a b : Text × Text) : Bool := a.1 < b.1 || a.1 == b.1 && !decide (b.2 < a.2)

/-- The description of a statement whose tags are handed out in this order. -/
def Statement.descriptionOf (s : Statement) (listed : List (Text × Text)) : Text :=
  (("Statement: ".toList ++ s.text) :: ("Kind: ".toList ++ s.kind.label) ::
    (listed.mergeSort Tags.notAfter).map tagLine).flatMap (· ++ ['\n'])

/-! ## The order of the tags -/

namespace Tags

theorem notAfter_iff (a b : Text × Text) :
    notAfter a b = true ↔ a.1 < b.1 ∨ a.1 = b.1 ∧ ¬ b.2 < a.2 := by
  simp only [notAfter, Bool.or_eq_true, Bool.and_eq_true, decide_eq_true_eq, beq_iff_eq,
    Bool.not_eq_true', decide_eq_false_iff_not]

theorem notAfter_trans (a b c : Text × Text) (hab : notAfter a b = true)
    (hbc : notAfter b c = true) : notAfter a c = true := by
  rw [notAfter_iff] at *
  rcases hab with hab | ⟨hab, hab'⟩ <;> rcases hbc with hbc | ⟨hbc, hbc'⟩
  · exact Or.inl (List.lt_trans hab hbc)
  · exact Or.inl (hbc ▸ hab)
  · exact Or.inl (hab ▸ hbc)
  · rw [List.not_lt] at hab' hbc'
    exact Or.inr ⟨hab.trans hbc, List.not_lt.2 (List.le_trans hab' hbc')⟩

theorem notAfter_total (a b : Text × Text) : (notAfter a b || notAfter b a) = true := by
  rw [Bool.or_eq_true, notAfter_iff, notAfter_iff]
  rcases Std.lt_trichotomy a.1 b.1 with hlt | heq | hgt
  · exact Or.inl (Or.inl hlt)
  · by_cases hback : b.2 < a.2
    · exact Or.inr (Or.inr ⟨heq.symm, List.lt_asymm hback⟩)
    · exact Or.inl (Or.inr ⟨heq, hback⟩)
  · exact Or.inr (Or.inl hgt)

theorem notAfter_antisymm {a b : Text × Text} (hab : notAfter a b = true)
    (hba : notAfter b a = true) : a = b := by
  rw [notAfter_iff] at *
  rcases hab with hab | ⟨hab, hab'⟩ <;> rcases hba with hba | ⟨hba, hba'⟩
  · exact absurd (List.lt_trans hab hba) (List.lt_irrefl _)
  · exact absurd (hba ▸ hab) (List.lt_irrefl _)
  · exact absurd (hab ▸ hba) (List.lt_irrefl _)
  · rw [List.not_lt] at hab' hba'
    exact Prod.ext hab (List.le_antisymm hab' hba')

/-- Sorting brings the tags into one order, however they are handed out. -/
theorem mergeSort_of_perm {tags : Tags} {listed : List (Text × Text)}
    (h : listed.Perm tags.entries) : listed.mergeSort notAfter = tags.entries := by
  have hsorted : tags.entries.Pairwise fun a b => notAfter a b = true :=
    tags.sorted.imp fun hab => (notAfter_iff _ _).2 (Or.inl hab)
  exact List.Perm.eq_of_pairwise (fun a b _ _ => notAfter_antisymm)
    (List.pairwise_mergeSort notAfter_trans notAfter_total listed) hsorted
    ((List.mergeSort_perm listed notAfter).trans h)

end Tags

/-! ## The lines of a description -/

theorem Kind.label_injective {k l : Kind} (h : k.label = l.label) : k = l := by
  cases k <;> cases l <;> first | rfl | exact absurd h (by decide)

theorem Kind.lineFeed_not_mem_label (k : Kind) : '\n' ∉ k.label := by
  cases k <;> decide

namespace Statement

/-- A tag is the name or one of the others. -/
theorem Sound.mem_entries {s : Statement} (h : s.Sound) {e : Text × Text}
    (he : e ∈ s.tags.entries) : e = (Line.nameKey, s.name) ∨ e ∈ s.otherTags := by
  by_cases hkey : e.1 = Line.nameKey
  · have hvalue : s.tags.get? e.1 = some e.2 := Tags.get?_eq_some_iff.2 he
    rw [hkey, h.named] at hvalue
    exact Or.inl (Prod.ext hkey (Option.some.inj hvalue).symm)
  · exact Or.inr (List.mem_filter.2 ⟨he, by simpa using hkey⟩)

theorem Sound.isKeyChar {s : Statement} (h : s.Sound) {e : Text × Text}
    (he : e ∈ s.tags.entries) : ∀ c ∈ e.1, Tag.isKeyChar c = true := by
  rcases h.mem_entries he with rfl | hother
  · exact h.name.key
  · exact (h.tags e hother).key

theorem lineFeed_not_mem_value {s : Statement} (h : s.Sound) (hfree : s.Unbroken)
    {e : Text × Text} (he : e ∈ s.tags.entries) : '\n' ∉ e.2 := by
  rcases h.mem_entries he with rfl | hother
  · exact hfree.name
  · exact hfree.tags e hother

theorem lineFeed_not_mem_descriptionLines {s : Statement} (h : s.Sound) (hfree : s.Unbroken) :
    ∀ l ∈ s.descriptionLines, '\n' ∉ l := by
  intro l hl
  rcases List.mem_cons.1 hl with rfl | hl
  · simp [hfree.text]
  · rcases List.mem_cons.1 hl with rfl | hl
    · simp [Kind.lineFeed_not_mem_label]
    · obtain ⟨e, he, rfl⟩ := List.mem_map.1 hl
      have hkey : '\n' ∉ e.1 := fun hmem => absurd (h.isKeyChar he _ hmem) (by decide)
      unfold tagLine
      simp [hkey, lineFeed_not_mem_value h hfree he]

theorem cutAt_description {s : Statement} (h : s.Sound) (hfree : s.Unbroken) :
    Text.cutAt '\n' s.description = (s.descriptionLines, []) := by
  have hcut := Text.cutAt_joinEnded (lineFeed_not_mem_descriptionLines h hfree)
    (List.not_mem_nil (a := '\n'))
  rwa [List.append_nil] at hcut

/-- The key ends at the first space, so the rest is the value. -/
theorem eq_of_tagLine_eq {e f : Text × Text} (he : ∀ c ∈ e.1, Tag.isKeyChar c = true)
    (hf : ∀ c ∈ f.1, Tag.isKeyChar c = true) (h : tagLine e = tagLine f) : e = f := by
  have hmark : " - Value: ".toList = ' ' :: "- Value: ".toList := by decide
  have hspace : ∀ (t : Text) (c : Char), (' ' :: t).head? = some c → Tag.isKeyChar c = false := by
    intro t c hc
    obtain rfl : ' ' = c := Option.some.inj hc
    decide
  unfold tagLine at h
  simp only [List.append_assoc, hmark, List.cons_append] at h
  obtain ⟨hkey, hvalue⟩ := Text.run_unique he hf (hspace _) (hspace _) (List.append_cancel_left h)
  exact Prod.ext hkey (List.append_cancel_left (List.cons.inj hvalue).2)

theorem eq_of_map_tagLine_eq {es fs : List (Text × Text)}
    (hes : ∀ e ∈ es, ∀ c ∈ e.1, Tag.isKeyChar c = true)
    (hfs : ∀ f ∈ fs, ∀ c ∈ f.1, Tag.isKeyChar c = true)
    (h : es.map tagLine = fs.map tagLine) : es = fs := by
  induction es generalizing fs with
  | nil => exact (List.map_eq_nil_iff.1 h.symm).symm
  | cons e es ih =>
    cases fs with
    | nil => cases h
    | cons f fs =>
      obtain ⟨hfirst, hrest⟩ := List.cons.inj h
      rw [eq_of_tagLine_eq (hes e List.mem_cons_self) (hfs f List.mem_cons_self) hfirst,
        ih (fun x hx => hes x (List.mem_cons_of_mem _ hx))
          (fun x hx => hfs x (List.mem_cons_of_mem _ hx)) hrest]

/-- Statements with the same description have the same text, kind and tags. -/
theorem eq_of_description_eq {s t : Statement} (hs : s.Sound) (hsfree : s.Unbroken)
    (ht : t.Sound) (htfree : t.Unbroken) (h : s.description = t.description) :
    s.text = t.text ∧ s.kind = t.kind ∧ s.tags = t.tags := by
  have hlines : s.descriptionLines = t.descriptionLines := by
    have hcut := cutAt_description hs hsfree
    rw [h, cutAt_description ht htfree] at hcut
    exact (congrArg Prod.fst hcut).symm
  obtain ⟨htext, hrest⟩ := List.cons.inj hlines
  obtain ⟨hkind, htags⟩ := List.cons.inj hrest
  exact ⟨List.append_cancel_left htext, Kind.label_injective (List.append_cancel_left hkind),
    Tags.ext (eq_of_map_tagLine_eq (fun e => hs.isKeyChar) (fun f => ht.isKeyChar) htags)⟩

end Statement

/-! ## The laws -/

/-- Two statements of scripts have the same description if and only if they have the same text,
the same kind and the same value under every key. The lines of a description are the text, the
kind, and every tag once, in the order of the keys, and the order in which the tags are handed
out makes no difference. -/
theorem a_description_tells_a_statement {first second : Text} {a b : Catalog}
    (ha : Script.parse first = .ok a) (hb : Script.parse second = .ok b) {s t : Statement}
    (hs : s ∈ a.statements) (ht : t ∈ b.statements) :
    (s.description = t.description ↔
      s.text = t.text ∧ s.kind = t.kind ∧ ∀ key, s.tags.get? key = t.tags.get? key) ∧
    (∃ tags : List (Text × Text),
      Text.cutAt '\n' s.description =
        (("Statement: ".toList ++ s.text) :: ("Kind: ".toList ++ s.kind.label) ::
          tags.map (fun e => "Tag: ".toList ++ e.1 ++ " - Value: ".toList ++ e.2), []) ∧
      tags.Pairwise (fun e f => e.1 < f.1) ∧
      ∀ key value, (key, value) ∈ tags ↔ s.tags.get? key = some value) ∧
    ∀ listed : List (Text × Text), listed.Perm s.tags.entries →
      s.descriptionOf listed = s.description := by
  obtain ⟨hsound, hfree⟩ := Script.sound_statements ha s hs
  obtain ⟨hsound', hfree'⟩ := Script.sound_statements hb t ht
  refine ⟨⟨?_, ?_⟩, ⟨s.tags.entries, Statement.cutAt_description hsound hfree, s.tags.sorted,
    fun key value => Tags.get?_eq_some_iff.symm⟩, ?_⟩
  · intro h
    obtain ⟨htext, hkind, htags⟩ :=
      Statement.eq_of_description_eq hsound hfree hsound' hfree' h
    exact ⟨htext, hkind, fun key => by rw [htags]⟩
  · rintro ⟨htext, hkind, htags⟩
    have hlines : s.descriptionLines = t.descriptionLines := by
      unfold Statement.descriptionLines
      rw [htext, hkind, Tags.ext_get? htags]
    unfold Statement.description
    rw [hlines]
  · intro listed hperm
    unfold Statement.descriptionOf Statement.description Statement.descriptionLines
    rw [Tags.mergeSort_of_perm hperm]

/-- Tags that come in another order and with an overwritten value, in a statement with another
ordinal, and a value that looks like the lines of a description. -/
theorem tags_in_another_order_have_the_same_description :
    let first := ("-- tag=name: A\n-- tag=k: 1\n--tag=B: v - Value: w\rTag: z\n" ++
      "select 1 from t;").toList
    let second := ("-- tag=name: C\nselect 1 from u;\n-- tag=name: A\n" ++
      "-- tag=b: v - Value: w\rTag: z\n-- tag=K: 0\n-- TAG=k: 1\nselect 1\n from t;\n").toList
    let tags := ((Tags.single Line.nameKey ['A']).insert ['k'] ['1']).insert ['b']
      "v - Value: w\rTag: z".toList
    let s : Statement := ⟨"select 1 from t".toList, .dql, tags, 0⟩
    let t : Statement := ⟨"select 1 from t".toList, .dql, tags, 1⟩
    let other : Statement := ⟨"select 1 from u".toList, .dql, Tags.single Line.nameKey ['C'], 0⟩
    Script.parse first = .ok ⟨[(['a'], s)]⟩ ∧
      Script.parse second = .ok ⟨[(['c'], other), (['a'], t)]⟩ ∧
      s.description = t.description ∧ s.description ≠ other.description ∧
      tags.entries.reverse.Perm s.tags.entries ∧
      s.descriptionOf tags.entries.reverse = s.description := by
  intro first second tags s t other
  have hfirst : Script.parse first = .ok ⟨[(['a'], s)]⟩ := by decide +kernel
  have hsecond : Script.parse second = .ok ⟨[(['c'], other), (['a'], t)]⟩ := by decide +kernel
  have hs : s ∈ Catalog.statements ⟨[(['a'], s)]⟩ := List.mem_cons_self
  have ht : t ∈ Catalog.statements ⟨[(['c'], other), (['a'], t)]⟩ :=
    List.mem_cons_of_mem _ List.mem_cons_self
  have hother : other ∈ Catalog.statements ⟨[(['c'], other), (['a'], t)]⟩ := List.mem_cons_self
  obtain ⟨hsame, -, hlisted⟩ := a_description_tells_a_statement hfirst hsecond hs ht
  obtain ⟨hapart, -⟩ := a_description_tells_a_statement hfirst hsecond hs hother
  have htext : s.text ≠ other.text := by decide
  have hperm : tags.entries.reverse.Perm s.tags.entries := List.reverse_perm _
  exact ⟨hfirst, hsecond, hsame.2 ⟨rfl, rfl, fun _ => rfl⟩, fun h => htext (hapart.1 h).1, hperm,
    hlisted _ hperm⟩

end NamedSql
