-- The first mark of a line. It alone decides what a line of code leaves. It is met whatever
-- stands behind it, and a text that is cut off before it has no mark. So nothing
-- that follows the first mark of a line can change the class of the line.
import NamedSql.Proofs.Marks

namespace NamedSql

/-! ## The pure model -/

/-- No block comment is left open at the end of the text. -/
def Comments.Closed (t : Text) : Prop :=
  ∀ start ∈ Text.place? ['/', '*'] t, ['*', '/'] <:+: t.drop (start + 2)

instance : DecidablePred Comments.Closed := fun t =>
  inferInstanceAs (Decidable (∀ start ∈ Text.place? ['/', '*'] t, _))

namespace Line

/-- What a line of code leaves, told from its first mark. -/
def ofFirst (line : Text) : Option ScanMark → Line
  | some (.terminator i) => .terminated (Text.trimEnd (line.take i))
  | some (.dashes i) => .fragment (Text.trimEnd (line.take i))
  | none => .fragment line

/-! ## The mode at the end of a text -/

theorem modeAfter_block {t : Text} (h : ['*', '/'] <:+: t) :
    modeAfter .block t = .codeBehind := by
  induction t with
  | nil => exact absurd h (by decide)
  | cons c cs ih =>
    rw [modeAfter_block_cons]
    split
    · exact modeAfter_codeBehind _
    · rename_i hclosing
      exact ih ((List.infix_cons_iff.1 h).resolve_left hclosing)

theorem modeAfter_code {t : Text} (h : Comments.Closed t) : modeAfter .code t ≠ .block := by
  induction t with
  | nil => exact nofun
  | cons c cs ih =>
    unfold Comments.Closed at h
    rw [Text.place?_cons] at h
    rw [modeAfter_code_cons]
    by_cases hopening : ['/', '*'] <+: c :: cs
    · rw [if_pos (List.isPrefixOf_iff_prefix.2 hopening)] at h
      rw [if_pos hopening, modeAfter_block]
      · exact nofun
      · exact h 0 rfl
    · rw [if_neg (mt List.isPrefixOf_iff_prefix.1 hopening)] at h
      rw [if_neg hopening]
      apply ih
      intro start hstart
      exact h (start + 1) (Option.mem_map_of_mem (· + 1) hstart)

/-! ## The first mark -/

theorem eq_nil_of_marksFrom_dashes {mode : ScanMode} {i d : Nat} {t : Text}
    {more : List ScanMark} (h : marksFrom mode i t = .dashes d :: more) : more = [] := by
  fun_induction marksFrom mode i t with
  | case1 _ _ ih | case2 _ _ _ _ ih | case3 _ _ ih | case6 _ _ _ _ _ _ _ _ _ ih => exact ih h
  | case4 => exact (List.cons.inj h).2.symm
  | case5 => cases h
  | case7 => cases h

theorem place_lt_length {line : Text} {m : ScanMark} (h : (marks line).head? = some m) :
    m.place < line.length := by
  obtain ⟨k, hk, hword⟩ := mem_marksFrom (List.mem_of_mem_head? h)
  have hlen := hword.length_le
  rw [List.length_drop] at hlen
  have hpos : 0 < m.word.length := by cases m <;> exact Nat.succ_pos _
  omega

/-- A line is what stands before its first mark, the word of the mark, and a rest. -/
theorem split_at_mark {line : Text} {m : ScanMark} (h : (marks line).head? = some m) :
    ∃ rest, line = line.take m.place ++ (m.word ++ rest) := by
  obtain ⟨k, hk, rest, hrest⟩ := mem_marksFrom (List.mem_of_mem_head? h)
  rw [Nat.zero_add] at hk
  exact ⟨rest, by rw [hrest, hk, List.take_append_drop]⟩

/-- The first mark of a line of code decides. -/
theorem ofCode_eq_ofFirst {line : Text} (h : Text.Trimmed line) :
    ofCode line = ofFirst line (marks line).head? := by
  rw [ofCode_eq h, scannedTerminator?, scannedDashes?]
  cases hmarks : marks line with
  | nil => simp [ofFirst, h.trimEnd_eq]
  | cons m more =>
    cases m with
    | terminator i => rfl
    | dashes d =>
      obtain rfl := eq_nil_of_marksFrom_dashes hmarks
      rfl

theorem classify_eq_ofFirst {raw : Text} (h : CodeLine (Text.trim raw)) :
    classify raw = ofFirst (Text.trim raw) (marks (Text.trim raw)).head? := by
  rw [classify_of_codeLine h, ofCode_eq_ofFirst (Text.trimmed_trim raw)]

theorem first_of_terminated {raw code : Text} (h : classify raw = .terminated code) :
    CodeLine (Text.trim raw) ∧ ∃ i, (marks (Text.trim raw)).head? = some (.terminator i) ∧
      code = Text.trimEnd ((Text.trim raw).take i) := by
  have hline := (codeLine_of_code? (congrArg code? h)).1
  refine ⟨hline, ?_⟩
  rw [classify_eq_ofFirst hline] at h
  cases hfirst : (marks (Text.trim raw)).head? with
  | none =>
    rw [hfirst] at h
    cases h
  | some m =>
    rw [hfirst] at h
    cases m with
    | terminator i =>
      cases h
      exact ⟨i, rfl, rfl⟩
    | dashes d => cases h

theorem first_of_fragment {raw code : Text} (h : classify raw = .fragment code) :
    CodeLine (Text.trim raw) ∧
      ((∃ d, (marks (Text.trim raw)).head? = some (.dashes d) ∧
        code = Text.trimEnd ((Text.trim raw).take d)) ∨
      marks (Text.trim raw) = [] ∧ code = Text.trim raw) := by
  have hline := (codeLine_of_code? (congrArg code? h)).1
  refine ⟨hline, ?_⟩
  rw [classify_eq_ofFirst hline] at h
  cases hfirst : (marks (Text.trim raw)).head? with
  | none =>
    rw [hfirst] at h
    cases h
    exact Or.inr ⟨List.head?_eq_none_iff.1 hfirst, rfl⟩
  | some m =>
    rw [hfirst] at h
    cases m with
    | terminator i => cases h
    | dashes d =>
      cases h
      exact Or.inl ⟨d, rfl, rfl⟩

/-! ## Lines that go on -/

theorem avoids_of_isSpace {word : Text} (hword : word.all (fun w => !Text.isSpace w.toLower) = true)
    {c : Char} (hc : Text.isSpace c = true) : Text.avoids word c = true := by
  have hlower : c.toLower = c := by
    apply Char.toLower_eq_of_not_isUpper
    intro hup
    rw [Text.isUpper_iff] at hup
    simp only [Text.isSpace, Text.inRanges, Text.spaceRanges, Char.toNat, List.any_cons,
      List.any_nil, Bool.or_false, Bool.or_eq_true, Bool.and_eq_true, decide_eq_true_eq] at hc
    omega
  unfold Text.avoids
  rw [List.all_eq_true] at hword ⊢
  intro w hw
  have hspace := hword w hw
  rw [Bool.not_eq_true'] at hspace ⊢
  rw [Text.alike, hlower, beq_eq_false_iff_ne]
  exact (ne_of_isSpace hc hspace).symm

/-- White space and terminators complete neither a control word nor dashes, so a line of code that
is cut off and goes on with one of them is a line of code. -/
theorem codeLine_append_cons {line t : Text} {c : Char} (hline : CodeLine line)
    (htrimmed : Text.Trimmed line) (ht : t <+: line)
    (hc : t ≠ [] ∧ Text.isSpace c = true ∨ c = ';') (r : Text) : CodeLine (t ++ c :: r) := by
  have hcontrol := startsControl_of_isPrefix ht hline.control
  have hdashes : ¬ ['-', '-'] <+: t := fun h => hline.dashes (h.trans ht)
  have hhead : ∀ d, t.head? = some d → Text.isSpace d = false := fun d hd =>
    htrimmed.head d (Text.head?_of_isPrefix ht hd)
  have hword : controlWords.all (Text.avoids · c) = true := by
    rcases hc with ⟨-, hspace⟩ | rfl
    · rw [List.all_eq_true]
      intro word hword
      refine avoids_of_isSpace ?_ hspace
      have hletters : controlWords.all (·.all fun w => !Text.isSpace w.toLower) = true := by decide
      exact List.all_eq_true.1 hletters word hword
    · decide
  have hne : c ≠ '-' := by
    rcases hc with ⟨-, hspace⟩ | rfl
    · exact ne_of_isSpace hspace (by decide)
    · decide
  apply codeLine_of_head (by simp)
  · intro d hd
    cases t with
    | nil =>
      obtain rfl := hc.resolve_left fun h => h.1 rfl
      obtain rfl := Option.some.inj hd
      decide
    | cons e es => exact hhead d hd
  · rw [startsControl_append_cons t r hword]
    exact hcontrol
  · cases t with
    | nil =>
      rw [List.nil_append, pair_isPrefix_cons]
      exact fun h => hne h.1
    | cons d ds =>
      rw [List.cons_append, pair_isPrefix_append fun _ => by simpa using hne]
      exact hdashes

theorem ofFirst_append {line : Text} {m : ScanMark} (h : (marks line).head? = some m) (t : Text) :
    ofFirst (line ++ t) (marks (line ++ t)).head? = ofFirst line (some m) := by
  have hlt := place_lt_length h
  have htake : (line ++ t).take m.place = line.take m.place :=
    List.take_append_of_le_length (Nat.le_of_lt hlt)
  rw [marks, head?_marksFrom_append h]
  cases m with
  | terminator i => exact congrArg (fun s => terminated (Text.trimEnd s)) htake
  | dashes d => exact congrArg (fun s => fragment (Text.trimEnd s)) htake

theorem ofFirst_dashes {line w : Text} (hline : Text.Trimmed line) (hmarks : marks line = [])
    (hclosed : Comments.Closed line) (hw : ∀ c ∈ w, Text.isSpace c = true) (hne : w ≠ [])
    (t : Text) :
    ofFirst (line ++ (w ++ '-' :: '-' :: t)) (marks (line ++ (w ++ '-' :: '-' :: t))).head? =
      .fragment line := by
  have hapart : StartsApart (w ++ '-' :: '-' :: t) :=
    startsApart_spaces_append hw fun hnil => absurd hnil hne
  have hmet : marks (line ++ (w ++ '-' :: '-' :: t)) = [.dashes (line.length + w.length)] := by
    rw [marks, marksFrom_append_of_nil hmarks hapart, marksFrom_spaces_append _ _ hw, Nat.zero_add,
      marksFrom]
    exact modeAfter_code hclosed
  have htake : (line ++ (w ++ '-' :: '-' :: t)).take (line.length + w.length) = line ++ w := by
    rw [← List.append_assoc, ← List.length_append, List.take_left]
  rw [hmet, List.head?_cons, ofFirst, htake, Text.trimEnd_append_spaces _ hw, hline.trimEnd_eq]

theorem exists_trim_dashes {raw : Text} (hne : Text.trim raw ≠ []) (x : Text) :
    ∃ w, w ≠ [] ∧ (∀ c ∈ w, Text.isSpace c = true) ∧
      Text.trim (raw ++ (" --".toList ++ x)) =
        Text.trim raw ++ (w ++ '-' :: '-' :: Text.trimEnd x) := by
  obtain ⟨w, hw, htrim⟩ := Text.exists_trim_append raw
  refine ⟨w ++ [' '], by simp, fun c hc => ?_, ?_⟩
  · rcases List.mem_append.1 hc with hc | hc
    · exact hw c hc
    · rw [List.mem_singleton.1 hc]
      decide
  · have hlast : ∀ c, (w ++ " --".toList).getLast? = some c → Text.isSpace c = false := by
      intro c hc
      rw [List.getLast?_append_of_ne_nil _ (by decide)] at hc
      obtain rfl : '-' = c := Option.some.inj hc
      decide
    rw [htrim, (Text.trimmed_trim raw).trim_append hne, ← List.append_assoc w,
      Text.trimEnd_append hlast, List.append_assoc, List.append_assoc]
    rfl

/-! ## The laws -/

/-- What stands behind the first mark of a line never counts. A line that ends the statement
leaves the same code whatever stands behind it. A line of code without an end leaves the
same code if dashes stand behind it and anything behind them, unless a block comment
is open in the code. -/
theorem nothing_behind_the_first_mark_counts (raw x : Text) :
    (∀ code, classify raw = .terminated code → classify (raw ++ x) = .terminated code) ∧
    ∀ code, classify raw = .fragment code → Comments.Closed code →
      classify (raw ++ (" --".toList ++ x)) = .fragment code := by
  have htrimmed := Text.trimmed_trim raw
  constructor
  · intro code h
    obtain ⟨hline, i, hfirst, rfl⟩ := first_of_terminated h
    obtain ⟨w, -, htrim⟩ := Text.exists_trim_append raw
    have hmore := htrimmed.trim_append hline.ne_nil (w ++ x)
    rw [← htrim] at hmore
    obtain ⟨rest, hrest⟩ := split_at_mark hfirst
    have hcode : CodeLine (Text.trim (raw ++ x)) := by
      rw [hmore, hrest, List.append_assoc]
      exact codeLine_append_cons hline htrimmed (List.take_prefix _ _) (Or.inr rfl) _
    rw [classify_eq_ofFirst hcode, hmore, ofFirst_append hfirst]
    rfl
  · intro code h hclosed
    obtain ⟨hline, hfirst⟩ := first_of_fragment h
    obtain ⟨w, hne, hw, hmore⟩ := exists_trim_dashes hline.ne_nil x
    have hcode : CodeLine (Text.trim (raw ++ (" --".toList ++ x))) := by
      obtain ⟨d, ds, rfl⟩ := List.exists_cons_of_ne_nil hne
      rw [hmore]
      exact codeLine_append_cons hline htrimmed (List.prefix_refl _)
        (Or.inl ⟨hline.ne_nil, hw d List.mem_cons_self⟩) _
    rw [classify_eq_ofFirst hcode, hmore]
    rcases hfirst with ⟨d, hfirst, rfl⟩ | ⟨hmarks, rfl⟩
    · rw [ofFirst_append hfirst]
      rfl
    · exact ofFirst_dashes htrimmed hmarks hclosed hw hne _

/-- An end behind a closed comment, code behind one, and code with dashes of its own. In a comment
that is left open the dashes hide nothing. -/
theorem openings_and_ends_behind_a_line_do_not_count :
    let ended := "\ta/*;*/b ;".toList
    let code := "c /* -- */ d\u3000".toList
    let hidden := "e- -- /* f".toList
    let x := "*/ /* ; -- commit".toList
    classify (ended ++ x) = .terminated "a/*;*/b".toList ∧
      classify (code ++ (" --".toList ++ x)) = .fragment "c /* -- */ d".toList ∧
      classify (hidden ++ (" --".toList ++ x)) = .fragment "e-".toList ∧
      classify ("g /* h".toList ++ (" --".toList ++ x)) = .terminated "g /* h --*/ /*".toList := by
  intro ended code hidden x
  have hended : classify ended = .terminated "a/*;*/b".toList := by decide +kernel
  have hcode : classify code = .fragment "c /* -- */ d".toList := by decide +kernel
  have hhidden : classify hidden = .fragment "e-".toList := by decide +kernel
  refine ⟨(nothing_behind_the_first_mark_counts ended x).1 _ hended,
    (nothing_behind_the_first_mark_counts code x).2 _ hcode (by decide +kernel),
    (nothing_behind_the_first_mark_counts hidden x).2 _ hhidden (by decide +kernel), ?_⟩
  decide +kernel

end Line

end NamedSql
