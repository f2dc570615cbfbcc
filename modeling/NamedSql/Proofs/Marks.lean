-- The marks of comments and terminators, met one by one. A reading from left to right knows
-- only whether it stands in a block comment, and yet it meets what the search finds that
-- looks for each mark in the whole line. White space at the two ends of a line makes no
-- difference but to the places.
import NamedSql.Proofs.Classes
import NamedSql.Proofs.Readings

namespace NamedSql

/-! ## The pure model -/

namespace Line

/-- What is met in the rest of a line, from place `i` on, where it is known which places the
block comment covers. -/
def marksBeside (covered : Nat → Bool) : Nat → Text → List ScanMark
  | _, [] => []
  | i, c :: cs =>
    if covered i then marksBeside covered (i + 1) cs
    else if ['-', '-'] <+: c :: cs then [.dashes i]
    else if c = ';' then .terminator i :: marksBeside covered (i + 1) cs
    else marksBeside covered (i + 1) cs

/-- How many characters trimming takes from the head of a line. -/
def lead (raw : Text) : Nat := raw.length - (Text.trimStart raw).length

end Line

/-- The same mark in a line that starts `n` places earlier. -/
def ScanMark.behind (n : Nat) : ScanMark → ScanMark
  | .terminator i => .terminator (n + i)
  | .dashes i => .dashes (n + i)

/-! ## The block comment of a line -/

namespace Comments

/-- Behind the head of a line the block comment is that of the rest, unless it opens there. -/
theorem blockOf_cons {c : Char} {cs : Text} (h : ¬ ['/', '*'] <+: c :: cs) :
    blockOf (c :: cs) = (blockOf cs).map fun b => (b.1 + 1, b.2 + 1) := by
  unfold blockOf
  rw [Text.place?_cons, if_neg (by simpa using h), Option.map_map, Option.map_map]
  congr 1
  funext start
  have hdrop : (c :: cs).drop (start + 1 + 2) = cs.drop (start + 2) := rfl
  simp only [Function.comp_apply, hdrop]
  cases Text.place? ['*', '/'] (cs.drop (start + 2)) with
  | none => rfl
  | some close =>
    simp only [Prod.mk.injEq, true_and]
    omega

theorem inBlock_blockOf_cons {c : Char} {cs : Text} (h : ¬ ['/', '*'] <+: c :: cs) (k : Nat) :
    inBlock (blockOf (c :: cs)) (k + 1) = inBlock (blockOf cs) k := by
  rw [blockOf_cons h]
  cases blockOf cs <;> simp [inBlock]

theorem blockOf_opening (body : Text) :
    blockOf ('/' :: '*' :: body) =
      some (0, ((Text.place? ['*', '/'] body).map (· + 4)).getD (body.length + 2)) := by
  have hplace : Text.place? ['/', '*'] ('/' :: '*' :: body) = some 0 := by
    rw [Text.place?_cons]
    rfl
  unfold blockOf
  rw [hplace, Option.map_some]
  have hdrop : ('/' :: '*' :: body).drop (0 + 2) = body := rfl
  rw [hdrop]
  cases Text.place? ['*', '/'] body with
  | none => rfl
  | some close =>
    simp only [Option.map_some, Option.getD_some, Option.some.injEq, Prod.mk.injEq, true_and]
    omega

/-- No block comment ends between two dashes. -/
theorem inBlock_dashes {t : Text} {k : Nat} (h : inBlock (blockOf t) k = true)
    (hk : t[k]? = some '-') (hnext : t[k + 1]? = some '-') :
    inBlock (blockOf t) (k + 1) = true := by
  have hlen : k + 1 < t.length := (List.getElem?_eq_some_iff.1 hnext).1
  unfold blockOf at h ⊢
  cases hplace : Text.place? ['/', '*'] t with
  | none => simp [hplace, inBlock] at h
  | some start =>
    rw [hplace, Option.map_some] at h
    rw [Option.map_some]
    cases hclose : Text.place? ['*', '/'] (t.drop (start + 2)) with
    | none =>
      rw [hclose] at h
      simp only [inBlock, Option.any_some, Bool.and_eq_true, decide_eq_true_eq] at h ⊢
      omega
    | some close =>
      rw [hclose] at h
      simp only [inBlock, Option.any_some, Bool.and_eq_true, decide_eq_true_eq] at h ⊢
      have hslash : t[start + 2 + close + 1]? = some '/' := by
        have hword := Text.isPrefix_drop_of_mem_places (Text.mem_places_of_place? hclose)
        obtain ⟨rest, hrest⟩ := hword
        have hget := congrArg (·[1]?) hrest
        simp only [List.drop_drop, List.getElem?_drop] at hget
        rw [← hget]
        rfl
      -- The last place of the block comment holds a slash.
      have hne : k ≠ start + 2 + close + 1 := by
        rintro rfl
        rw [hslash] at hk
        simp at hk
      omega

end Comments

/-! ## The reading, past the block comment -/

namespace Line

theorem marksFrom_block (i : Nat) (t : Text) :
    marksFrom .block i t =
      match Text.place? ['*', '/'] t with
      | some close => marksFrom .codeBehind (i + (close + 2)) (t.drop (close + 2))
      | none => [] := by
  induction t generalizing i with
  | nil => rfl
  | cons c cs ih =>
    rw [marksFrom_block_cons, Text.place?_cons]
    by_cases hclose : ['*', '/'] <+: c :: cs
    · rw [if_pos hclose, if_pos (by simpa using hclose)]
      rfl
    · rw [if_neg hclose, if_neg (by simpa using hclose), ih]
      cases Text.place? ['*', '/'] cs with
      | none => rfl
      | some close =>
        have hplace : i + (close + 1 + 2) = i + 1 + (close + 2) := by omega
        simp only [Option.map_some, hplace]
        rfl

/-- Where nothing is covered any more, a reading behind the block comment misses nothing. -/
theorem marksFrom_codeBehind {covered : Nat → Bool} (i : Nat) (t : Text)
    (h : ∀ k, i ≤ k → covered k = false) : marksFrom .codeBehind i t = marksBeside covered i t := by
  induction t generalizing i with
  | nil => rfl
  | cons c cs ih =>
    have ih := ih (i + 1) fun k hk => h k (by omega)
    rw [marksFrom_codeBehind_cons, marksBeside, ih, h i (Nat.le_refl i)]
    rfl

theorem marksBeside_covered {covered : Nat → Bool} (i n : Nat) (t : Text)
    (h : ∀ k < n, covered (i + k) = true) :
    marksBeside covered i t = marksBeside covered (i + n) (t.drop n) := by
  induction n generalizing i t with
  | zero => rfl
  | succ n ih =>
    cases t with
    | nil => rfl
    | cons c cs =>
      have hhead : covered i = true := h 0 (Nat.succ_pos n)
      have hplace : ∀ k, i + (k + 1) = i + 1 + k := fun k => by omega
      have ih := ih (i + 1) cs fun k hk => by
        rw [← hplace]
        exact h (k + 1) (Nat.succ_lt_succ hk)
      rw [marksBeside, if_pos hhead, ih, List.drop_succ_cons, ← hplace n]

/-- A reading that has met an opening passes over the block comment that starts there. -/
theorem marksFrom_opening {covered : Nat → Bool} (i : Nat) (body : Text)
    (h : ∀ k, covered (i + k) =
      Comments.inBlock (Comments.blockOf ('/' :: '*' :: body)) k) :
    marksFrom .block (i + 2) body = marksBeside covered i ('/' :: '*' :: body) := by
  rw [Comments.blockOf_opening] at h
  simp only [Comments.inBlock, Option.any_some, Nat.zero_le, decide_true, Bool.true_and] at h
  rw [marksFrom_block]
  cases hclose : Text.place? ['*', '/'] body with
  | none =>
    rw [hclose] at h
    rw [marksBeside_covered i (body.length + 2) _ fun k hk => by simpa [h k] using hk]
    simp [marksBeside]
  | some close =>
    rw [hclose] at h
    rw [marksBeside_covered i (close + 4) _ fun k hk => by simpa [h k] using hk]
    have hplace : i + 2 + (close + 2) = i + (close + 4) := by omega
    dsimp only
    rw [hplace]
    apply marksFrom_codeBehind
    intro k hk
    obtain ⟨k, rfl⟩ := Nat.exists_eq_add_of_le (Nat.le_trans (Nat.le_add_right i _) hk)
    rw [h k]
    simp only [Option.map_some, Option.getD_some, decide_eq_false_iff_not]
    omega

theorem marksFrom_code {covered : Nat → Bool} (i : Nat) (t : Text)
    (h : ∀ k, covered (i + k) = Comments.inBlock (Comments.blockOf t) k) :
    marksFrom .code i t = marksBeside covered i t := by
  induction t generalizing i with
  | nil => rfl
  | cons c cs ih =>
    rw [marksFrom_code_cons]
    by_cases hopening : ['/', '*'] <+: c :: cs
    · rw [if_pos hopening]
      obtain ⟨rfl, body, rfl⟩ := pair_isPrefix_cons.1 hopening
      exact marksFrom_opening i body h
    · have hhead : covered i = false := by
        rw [← Nat.add_zero i, h 0, Comments.blockOf_cons hopening]
        cases Comments.blockOf cs <;> simp [Comments.inBlock]
      have ih := ih (i + 1) fun k => by
        rw [← Comments.inBlock_blockOf_cons hopening, ← h (k + 1)]
        congr 1
        omega
      rw [if_neg hopening, ih, marksBeside, hhead]
      rfl

theorem marks_eq (line : Text) :
    marks line = marksBeside (Comments.inBlock (Comments.blockOf line)) 0 line :=
  marksFrom_code 0 line fun k => by rw [Nat.zero_add]

/-! ## The search -/

theorem dashes_marksBeside_cons (covered : Nat → Bool) (i : Nat) (c : Char) (cs : Text) :
    (marksBeside covered i (c :: cs)).findSome? ScanMark.dashes? =
      if covered i = false ∧ ['-', '-'] <+: c :: cs then some i
      else (marksBeside covered (i + 1) cs).findSome? ScanMark.dashes? := by
  rw [marksBeside]
  cases covered i with
  | true => rfl
  | false =>
    by_cases hdashes : ['-', '-'] <+: c :: cs
    · have hmet : false = false ∧ ['-', '-'] <+: c :: cs := ⟨rfl, hdashes⟩
      rw [if_pos hmet]
      simp [hdashes, ScanMark.dashes?]
    · have hnot : ¬ (false = false ∧ ['-', '-'] <+: c :: cs) := fun h => hdashes h.2
      rw [if_neg hnot, if_neg Bool.false_ne_true, if_neg hdashes]
      split <;> rfl

theorem dashes_marksBeside (covered : Nat → Bool) (i skip : Nat) (t : Text)
    (hskip : ∀ k < skip, covered (i + k) = true)
    (hrun : ∀ k, covered (i + k) = true → t[k]? = some '-' → t[k + 1]? = some '-' →
      covered (i + (k + 1)) = true) :
    (marksBeside covered i t).findSome? ScanMark.dashes? =
      (Text.placesFrom ['-', '-'] i skip t).find? fun k => !covered k := by
  induction t generalizing i skip with
  | nil => cases skip <;> rfl
  | cons c cs ih =>
    have hplace : ∀ k, i + (k + 1) = i + 1 + k := fun k => by omega
    have ih := fun skip hskip => ih (i + 1) skip hskip fun k hcovered hk hnext => by
      rw [← hplace] at hcovered ⊢
      exact hrun (k + 1) hcovered hk hnext
    rw [dashes_marksBeside_cons]
    cases skip with
    | succ skip =>
      have hhead : covered i = true := hskip 0 (Nat.succ_pos skip)
      rw [if_neg (by simp [hhead]), Text.placesFrom]
      apply ih
      intro k hk
      rw [← hplace]
      exact hskip (k + 1) (Nat.succ_lt_succ hk)
    | zero =>
      rw [Text.placesFrom]
      by_cases hdashes : ['-', '-'] <+: c :: cs
      · rw [if_pos (List.isPrefixOf_iff_prefix.2 hdashes), List.find?_cons]
        cases hcovered : covered i with
        | false => exact if_pos ⟨rfl, hdashes⟩
        | true =>
          -- The second dash is covered like the first, so the search may leave it out.
          rw [if_neg (by simp)]
          apply ih
          intro k hk
          obtain ⟨rfl, rest, rfl⟩ := pair_isPrefix_cons.1 hdashes
          obtain rfl : k = 0 := by simpa using hk
          exact hrun 0 hcovered rfl rfl
      · rw [if_neg (mt List.isPrefixOf_iff_prefix.1 hdashes), if_neg fun h => hdashes h.2]
        exact ih 0 fun k hk => absurd hk (Nat.not_lt_zero k)

theorem le_of_dashes_marksBeside {covered : Nat → Bool} {i d : Nat} {t : Text}
    (h : (marksBeside covered i t).findSome? ScanMark.dashes? = some d) : i ≤ d := by
  induction t generalizing i with
  | nil => cases h
  | cons c cs ih =>
    rw [dashes_marksBeside_cons] at h
    split at h
    · exact Nat.le_of_eq (Option.some.inj h)
    · exact Nat.le_of_succ_le (ih h)

/-- The first terminator that is met is the first that the search finds outside of the block
comment and before the dashes. -/
theorem terminator_marksBeside (covered : Nat → Bool) (i : Nat) (t : Text) :
    (marksBeside covered i t).findSome? ScanMark.terminator? =
      (Text.placesFrom [';'] i 0 t).find? fun k =>
        !(covered k || ((marksBeside covered i t).findSome? ScanMark.dashes?).any (· ≤ k)) := by
  induction t generalizing i with
  | nil => rfl
  | cons c cs ih =>
    have ih := ih (i + 1)
    rw [dashes_marksBeside_cons, marksBeside, Text.placesFrom_single]
    by_cases hcovered : covered i = true
    · rw [if_pos hcovered, if_neg (by simp [hcovered]), ih]
      split
      · rw [List.find?_cons, hcovered]
        rfl
      · rfl
    · have hcovered := Bool.eq_false_iff.2 hcovered
      rw [if_neg (by simp [hcovered])]
      by_cases hdashes : ['-', '-'] <+: c :: cs
      · -- Every place that is still to come stands behind the dashes.
        have hmet : covered i = false ∧ ['-', '-'] <+: c :: cs := ⟨hcovered, hdashes⟩
        rw [if_pos hdashes, if_pos hmet]
        obtain ⟨rfl, -⟩ := pair_isPrefix_cons.1 hdashes
        rw [if_neg (by decide), eq_comm]
        apply List.find?_eq_none.2
        intro k hk
        obtain ⟨j, rfl, -⟩ := Text.mem_placesFrom hk
        have hle : i ≤ i + 1 + j := by omega
        simp [hle]
      · have hnot : ¬ (covered i = false ∧ ['-', '-'] <+: c :: cs) := fun h => hdashes h.2
        rw [if_neg hdashes, if_neg hnot]
        by_cases hterm : c = ';'
        · subst hterm
          have hbefore : ((marksBeside covered (i + 1) cs).findSome? ScanMark.dashes?).any
              (· ≤ i) = false := by
            rw [Option.any_eq_false]
            intro d hd
            have hle : i + 1 ≤ d := le_of_dashes_marksBeside hd
            exact decide_eq_false (by omega)
          rw [if_pos rfl, if_pos (by decide), List.find?_cons, hcovered, hbefore]
          rfl
        · rw [if_neg hterm, if_neg (by simpa using Ne.symm hterm), ih]

/-- The reading and the search agree on the dashes, since no block comment ends in a run of
them. -/
theorem dashes_scan (line : Text) : (Comments.scan line).dashes = scannedDashes? line := by
  have hsearch := dashes_marksBeside (Comments.inBlock (Comments.blockOf line)) 0 0 line
    (fun k hk => absurd hk (Nat.not_lt_zero k)) fun k hcovered hk hnext => by
      rw [Nat.zero_add] at hcovered ⊢
      exact Comments.inBlock_dashes hcovered hk hnext
  rw [scannedDashes?, marks_eq, hsearch]
  rfl

theorem terminator?_scan (line : Text) :
    (Comments.scan line).terminator? line = scannedTerminator? line := by
  have hdashes := dashes_scan line
  rw [scannedDashes?, marks_eq] at hdashes
  rw [scannedTerminator?, marks_eq, terminator_marksBeside, ← hdashes]
  rfl

theorem isTerminated_iff (line : Text) :
    isTerminated line = true ↔ ∃ i, ScanMark.terminator i ∈ marks line := by
  rw [isTerminated, terminator?_scan, scannedTerminator?, List.findSome?_isSome_iff]
  constructor
  · rintro ⟨_ | _, hm, hsome⟩
    · exact ⟨_, hm⟩
    · cases hsome
  · rintro ⟨i, hi⟩
    exact ⟨_, hi, rfl⟩

end Line

/-! ## The code before the dashes -/

namespace Comments

theorem terminator?_append (c : Comments) (s t : Text)
    (h : ∀ k, t[k]? = some ';' → c.hides (s.length + k) = true) :
    c.terminator? (s ++ t) = c.terminator? s := by
  have hnone : (Text.placesFrom [';'] (0 + s.length) 0 t).find? (fun i => !c.hides i) = none := by
    apply List.find?_eq_none.2
    intro p hp
    obtain ⟨k, rfl, -, -, hword⟩ := Text.mem_placesFrom hp
    rw [List.singleton_prefix_iff_head?_eq_some, List.head?_drop] at hword
    rw [Nat.zero_add, h k hword]
    exact Bool.false_ne_true
  unfold terminator? Text.places
  rw [Text.placesFrom_append, List.find?_append, hnone, Option.or_none]

theorem terminator?_code (line : Text) :
    (scan line).terminator? ((scan line).code line) = (scan line).terminator? line := by
  unfold code
  cases hdashes : (scan line).dashes with
  | none => rfl
  | some d =>
    obtain ⟨w, hcut, hspace⟩ := Text.trimEnd_split (line.take d)
    have hline : line = Text.trimEnd (line.take d) ++ (w ++ line.drop d) := by
      rw [← List.append_assoc, ← hcut, List.take_append_drop]
    have happend := terminator?_append (scan line) (Text.trimEnd (line.take d)) (w ++ line.drop d)
    rw [← hline] at happend
    refine (happend fun k hk => ?_).symm
    rcases Nat.lt_or_ge k w.length with hlt | hge
    · rw [List.getElem?_append_left hlt] at hk
      exact absurd (hspace _ (List.mem_of_getElem? hk)) (by decide)
    · -- The terminator stands behind the dashes.
      rw [List.getElem?_append_right hge] at hk
      have hbehind := (List.getElem?_eq_some_iff.1 hk).1
      have hlen := congrArg List.length hcut
      rw [List.length_append, List.length_take] at hlen
      rw [List.length_drop] at hbehind
      have hle : d ≤ (Text.trimEnd (line.take d)).length + k := by omega
      simp [hides, hdashes, hle]

end Comments

/-! ## White space at the ends of a line -/

namespace Line

theorem marksFrom_behind (mode : ScanMode) (n i : Nat) (t : Text) :
    marksFrom mode (n + i) t = (marksFrom mode i t).map (ScanMark.behind n) := by
  fun_induction marksFrom mode i t <;> simp_all [marksFrom, ScanMark.behind, Nat.add_assoc]

theorem marks_trim (raw : Text) :
    marks raw = (marks (Text.trim raw)).map (ScanMark.behind (lead raw)) := by
  obtain ⟨v, w, hraw, hlen, hv, hw⟩ := Text.trim_split raw
  have hlead : lead raw = v.length := by
    rw [lead, hlen, Nat.add_sub_cancel]
  unfold marks
  conv_lhs => rw [hraw]
  rw [marksFrom_spaces_append _ _ hv, marksFrom_append_spaces _ _ _ hw, Nat.zero_add, hlead,
    ← marksFrom_behind, Nat.add_zero]

theorem scannedTerminator?_trim (raw : Text) :
    scannedTerminator? raw = (scannedTerminator? (Text.trim raw)).map (lead raw + ·) := by
  have hmark : ∀ n, ScanMark.terminator? ∘ ScanMark.behind n =
      Option.map (n + ·) ∘ ScanMark.terminator? := fun n => by
    funext m
    cases m <;> rfl
  rw [scannedTerminator?, marks_trim, List.findSome?_map, hmark, ← List.map_findSome?]
  rfl

/-! ## Lines of code -/

/-- What a line of code leaves ends before its terminator, or else before its dashes. -/
theorem ofCode_eq {line : Text} (h : Text.Trimmed line) :
    ofCode line =
      match scannedTerminator? line with
      | some i => .terminated (Text.trimEnd (line.take i))
      | none => .fragment
          (Text.trimEnd (line.take ((scannedDashes? line).getD line.length))) := by
  have hcode := Comments.terminator?_code line
  rw [terminator?_scan] at hcode
  unfold ofCode
  dsimp only
  rw [hcode]
  cases hterm : scannedTerminator? line with
  | some i =>
    rw [hterm] at hcode
    obtain ⟨rest, hrest⟩ := Comments.code_isPrefix (Comments.scan line) line
    obtain ⟨k, rfl, -, hk, -⟩ := Text.mem_placesFrom (List.mem_of_find?_eq_some hcode)
    have htake : line.take k = ((Comments.scan line).code line).take k := by
      conv_lhs => rw [← hrest]
      exact List.take_append_of_le_length (Nat.le_of_lt hk)
    rw [Nat.zero_add]
    dsimp only
    rw [htake]
  | none =>
    dsimp only
    rw [← dashes_scan, Comments.code]
    cases (Comments.scan line).dashes with
    | some d => rfl
    | none =>
      dsimp only
      rw [Option.getD_none, List.take_length, h.trimEnd_eq]

end Line

/-! ## The laws -/

namespace Line

/-- For every line a reading from left to right finds the same dashes and the same first terminator
as the search. A line of code ends the statement if the reading of the line, with the white
space around it, meets a terminator, and then it leaves what stands before that. Otherwise it
leaves what stands before the dashes. -/
theorem a_reading_finds_what_the_search_finds (raw : Text) :
    (Comments.scan raw).dashes = scannedDashes? raw ∧
    (Comments.scan raw).terminator? raw = scannedTerminator? raw ∧
    (isTerminated raw = true ↔ ∃ i, ScanMark.terminator i ∈ marks raw) ∧
    ∀ code, (classify raw).code? = some code →
      (classify raw = .terminated code ↔ isTerminated raw = true) ∧
      (classify raw = .terminated code → ∃ i,
        scannedTerminator? raw = some (lead raw + i) ∧
        scannedTerminator? (Text.trim raw) = some i ∧
        code = Text.trimEnd ((Text.trim raw).take i)) ∧
      (classify raw = .fragment code →
        code = Text.trimEnd ((Text.trim raw).take
          ((scannedDashes? (Text.trim raw)).getD (Text.trim raw).length))) := by
  refine ⟨dashes_scan raw, terminator?_scan raw, isTerminated_iff raw, fun code hcode => ?_⟩
  have hclass := classify_of_codeLine (codeLine_of_code? hcode).1
  rw [ofCode_eq (Text.trimmed_trim raw)] at hclass
  rw [isTerminated, terminator?_scan, scannedTerminator?_trim]
  cases hterm : scannedTerminator? (Text.trim raw) with
  | some i =>
    rw [hterm] at hclass
    rw [hclass] at hcode ⊢
    obtain rfl := Option.some.inj hcode
    exact ⟨⟨fun _ => rfl, fun _ => rfl⟩, fun _ => ⟨i, rfl, rfl, rfl⟩, nofun⟩
  | none =>
    rw [hterm] at hclass
    rw [hclass] at hcode ⊢
    obtain rfl := Option.some.inj hcode
    exact ⟨⟨nofun, nofun⟩, nofun, fun _ => rfl⟩

/-- Marks that overlap: an opening that is no closing, dashes in a block comment and three dashes
right behind one, a second opening that does not count, and comments in a comment. -/
theorem overlapping_marks_are_read_as_they_are_found :
    let ended := " \t a/*/;--*/ b ; /*;*/ -- ;".toList
    let open₁ := "x /*/ */--- ; /* */ ;".toList
    let open₂ := "y -- /* ; */".toList
    classify ended = .terminated "a/*/;--*/ b".toList ∧ isTerminated ended = true ∧
      scannedTerminator? ended = some 15 ∧ scannedTerminator? (Text.trim ended) = some 12 ∧
      classify open₁ = .fragment "x /*/ */".toList ∧ isTerminated open₁ = false ∧
      scannedDashes? open₁ = some 8 ∧ (Comments.scan open₁).dashes = some 8 ∧
      ∀ i, ScanMark.terminator i ∉ marks open₂ := by
  intro ended open₁ open₂
  obtain ⟨-, -, -, hcode⟩ := a_reading_finds_what_the_search_finds ended
  have hended : classify ended = .terminated "a/*/;--*/ b".toList := by decide +kernel
  obtain ⟨hiff, hbefore, -⟩ := hcode _ (congrArg code? hended)
  obtain ⟨i, hraw, htrim, -⟩ := hbefore hended
  have hplace : scannedTerminator? (Text.trim ended) = some 12 := by decide +kernel
  obtain rfl : i = 12 := Option.some.inj (htrim.symm.trans hplace)
  obtain ⟨hdashes, -, -, hcode₁⟩ := a_reading_finds_what_the_search_finds open₁
  have hopen : classify open₁ = .fragment "x /*/ */".toList := by decide +kernel
  have hfree : isTerminated open₁ = false := by
    rw [Bool.eq_false_iff, ne_eq, ← (hcode₁ _ (congrArg code? hopen)).1, hopen]
    exact nofun
  have hd : scannedDashes? open₁ = some 8 := by decide +kernel
  obtain ⟨-, -, hmarks, -⟩ := a_reading_finds_what_the_search_finds open₂
  have hfree₂ : isTerminated open₂ = false := by decide +kernel
  refine ⟨hended, hiff.1 hended, hraw, htrim, hopen, hfree, hd, hdashes.trans hd, fun i hi => ?_⟩
  rw [hmarks.2 ⟨i, hi⟩] at hfree₂
  cases hfree₂

end Line

end NamedSql
