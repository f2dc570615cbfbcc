-- What escaping keeps of a text. The reading that writes runs of colons at one go decides
-- each colon by what stands before it. Only colons are added, each beside a colon that was
-- there, so the two ends, the other characters and the first words of a text stay as
-- they are, and an escaped text is not changed by escaping it again.
import NamedSql.Colons
import NamedSql.Proofs.Trimming
import NamedSql.Proofs.Words

namespace NamedSql.Colons

/-! ## What stands before a character -/

namespace Before

theorem next_eq_equals {b : Before} {c : Char} :
    b.next c = .equals ↔ c = '=' ∨ c = ' ' ∧ b = .equals := by
  unfold next
  by_cases hc : c = ':'
  · subst hc
    cases b <;> simp
  · by_cases hequals : c = '='
    · simp [hequals]
    · simp [hc, hequals]

theorem next_eq_colon {b : Before} {c : Char} : b.next c = .colon ↔ c = ':' ∧ b ≠ .equals := by
  unfold next
  by_cases hc : c = ':'
  · subst hc
    cases b <;> simp
  · by_cases hequals : c = '='
    · simp [hequals]
    · by_cases hspace : c = ' ' ∧ b = .equals <;> simp [hc, hequals, hspace]

end Before

/-! ## One text after some character -/

theorem doubledFrom_lone {c : Char} {b : Before} {cs : Text}
    (h : c = ':' ∧ b = .other ∧ cs.head? ≠ some ':') :
    doubledFrom b (c :: cs) = ':' :: ':' :: doubledFrom .colon cs := by
  obtain ⟨rfl, rfl, hhead⟩ := h
  rw [doubledFrom, if_pos ⟨rfl, rfl, hhead⟩]
  rfl

theorem doubledFrom_kept {c : Char} {b : Before} {cs : Text}
    (h : ¬ (c = ':' ∧ b = .other ∧ cs.head? ≠ some ':')) :
    doubledFrom b (c :: cs) = c :: doubledFrom (b.next c) cs := by
  rw [doubledFrom, if_neg h]

theorem head?_doubledFrom (b : Before) (t : Text) : (doubledFrom b t).head? = t.head? := by
  cases t with
  | nil => rfl
  | cons c cs =>
    by_cases h : c = ':' ∧ b = .other ∧ cs.head? ≠ some ':'
    · rw [doubledFrom_lone h, h.1]
      rfl
    · rw [doubledFrom_kept h]
      rfl

theorem doubledFrom_doubledFrom (b : Before) (t : Text) :
    doubledFrom b (doubledFrom b t) = doubledFrom b t := by
  induction t generalizing b with
  | nil => rfl
  | cons c cs ih =>
    by_cases h : c = ':' ∧ b = .other ∧ cs.head? ≠ some ':'
    · rw [doubledFrom_lone h]
      obtain ⟨-, rfl, -⟩ := h
      -- The second colon keeps the first from being alone, and the first keeps the second.
      rw [doubledFrom_kept (by simp), doubledFrom_kept (by simp [Before.next])]
      change ':' :: ':' :: doubledFrom .colon _ = _
      rw [ih]
    · rw [doubledFrom_kept h, doubledFrom_kept (by rwa [head?_doubledFrom]), ih]

theorem bindsFrom_doubledFrom (b : Before) (t : Text) :
    bindsFrom b (doubledFrom b t) = bindsFrom b t := by
  induction t generalizing b with
  | nil => rfl
  | cons c cs ih =>
    by_cases h : c = ':' ∧ b = .other ∧ cs.head? ≠ some ':'
    · rw [doubledFrom_lone h]
      obtain ⟨rfl, rfl, -⟩ := h
      change bindsFrom .colon (doubledFrom .colon cs) = bindsFrom .colon cs
      exact ih .colon
    · rw [doubledFrom_kept h]
      simp only [bindsFrom, ih]

theorem mem_doubledFrom {b : Before} {t : Text} {x : Char} : x ∈ doubledFrom b t ↔ x ∈ t := by
  induction t generalizing b with
  | nil => rfl
  | cons c cs ih =>
    by_cases h : c = ':' ∧ b = .other ∧ cs.head? ≠ some ':'
    · rw [doubledFrom_lone h, h.1]
      simp [ih]
    · rw [doubledFrom_kept h, List.mem_cons, List.mem_cons, ih]

theorem getLast?_doubledFrom (b : Before) (t : Text) :
    (doubledFrom b t).getLast? = t.getLast? := by
  induction t generalizing b with
  | nil => rfl
  | cons c cs ih =>
    by_cases h : c = ':' ∧ b = .other ∧ cs.head? ≠ some ':'
    · rw [doubledFrom_lone h, h.1, List.getLast?_cons, List.getLast?_cons, List.getLast?_cons, ih]
      rfl
    · rw [doubledFrom_kept h, List.getLast?_cons, List.getLast?_cons, ih]

/-- No two characters come together that did not stand together before, unless the
first is a colon. -/
theorem isInfix_doubledFrom {x y : Char} (hx : x ≠ ':') {b : Before} {t : Text} :
    [x, y] <:+: doubledFrom b t ↔ [x, y] <:+: t := by
  induction t generalizing b with
  | nil => rfl
  | cons c cs ih =>
    by_cases h : c = ':' ∧ b = .other ∧ cs.head? ≠ some ':'
    · rw [doubledFrom_lone h, h.1]
      simp only [List.infix_cons_iff, List.cons_prefix_cons, hx, false_and, false_or, ih]
    · have hhead := head?_doubledFrom (b.next c) cs
      rw [doubledFrom_kept h, List.infix_cons_iff, List.infix_cons_iff, ih,
        List.cons_prefix_cons, List.cons_prefix_cons, List.singleton_prefix_iff_head?_eq_some,
        List.singleton_prefix_iff_head?_eq_some, hhead]

/-- A word without colons stands at the head after the doubling if it stood there before. -/
theorem startsWithWord_doubledFrom {word : Text} (hw : Text.avoids word ':' = true)
    (b : Before) (t : Text) :
    Text.startsWithWord word (doubledFrom b t) = Text.startsWithWord word t := by
  induction word generalizing b t with
  | nil => rfl
  | cons w ws ih =>
    obtain ⟨hfirst, hrest⟩ := Text.avoids_cons hw
    cases t with
    | nil => rfl
    | cons c cs =>
      by_cases h : c = ':' ∧ b = .other ∧ cs.head? ≠ some ':'
      · rw [doubledFrom_lone h, h.1]
        simp [hfirst]
      · rw [doubledFrom_kept h, Text.startsWithWord_cons_cons, Text.startsWithWord_cons_cons,
          ih hrest]

/-! ## Runs of colons -/

/-- Behind a colon the colons that follow are kept, since none of them stands alone. -/
theorem doubledFrom_colons (n : Nat) (t : Text) :
    doubledFrom .colon (List.replicate n ':' ++ t) =
      List.replicate n ':' ++ doubledFrom .colon t := by
  induction n with
  | zero => rfl
  | succ n ih =>
    rw [List.replicate_succ, List.cons_append, List.cons_append, ← ih, doubledFrom_kept (by simp)]
    rfl

theorem bindsFrom_colons (n : Nat) (t : Text) :
    bindsFrom .colon (List.replicate n ':' ++ t) = bindsFrom .colon t := by
  induction n with
  | zero => rfl
  | succ n ih => exact ih

/-- A text is the run of colons at its head and a rest that starts with no colon. -/
theorem colons_split (t : Text) :
    let n := (t.takeWhile (· == ':')).length
    t = List.replicate n ':' ++ t.drop n ∧ (t.drop n).head? ≠ some ':' := by
  induction t with
  | nil => exact ⟨rfl, by simp⟩
  | cons c cs ih =>
    by_cases hc : c = ':'
    · subst hc
      rw [List.takeWhile_cons_of_pos (by simp)]
      exact ⟨congrArg (':' :: ·) ih.1, ih.2⟩
    · rw [List.takeWhile_cons_of_neg (by simpa using hc)]
      exact ⟨rfl, by simpa using hc⟩

/-- A run of colons is written as a whole, whatever stands behind it. -/
theorem run_eq (n : Nat) {t : Text} (h : t.head? ≠ some ':') :
    doubledFrom .other (':' :: (List.replicate n ':' ++ t)) =
        List.replicate (if n = 0 then 2 else n + 1) ':' ++ doubledFrom .colon t ∧
      bindsFrom .other (':' :: (List.replicate n ':' ++ t)) = bindsFrom .colon t := by
  refine ⟨?_, bindsFrom_colons n t⟩
  cases n with
  | zero => exact doubledFrom_lone ⟨rfl, rfl, h⟩
  | succ n =>
    rw [doubledFrom_kept (by simp [List.replicate_succ]), if_neg (Nat.succ_ne_zero n)]
    exact congrArg _ (doubledFrom_colons (n + 1) t)

/-! ## Reading a text -/

/-- The reading writes and meets what each character's place says, as long as it does not start
inside of a run. -/
theorem rewriteFrom_eq (b : Before) (skip : Nat) (t : Text)
    (h : b = .colon → (t.drop skip).head? ≠ some ':') :
    rewriteFrom (b == .equals) skip t =
      (doubledFrom b (t.drop skip), bindsFrom b (t.drop skip)) := by
  induction t generalizing b skip with
  | nil => cases skip <;> rfl
  | cons c cs ih =>
    cases skip with
    | succ skip => exact ih b skip h
    | zero =>
      rw [List.drop_zero] at h ⊢
      by_cases hc : c = ':'
      · subst hc
        cases b with
        | colon => exact absurd rfl (h rfl)
        | equals =>
          have ih := ih .other 0 (by simp)
          rw [doubledFrom_kept (by simp)]
          simp only [rewriteFrom, beq_self_eq_true, Bool.and_self, if_true, bindsFrom,
            Bool.true_or]
          exact congrArg (fun r => (':' :: r.1, true)) ih
        | other =>
          obtain ⟨hsplit, hrest⟩ := colons_split cs
          have ih := ih .colon _ fun _ => hrest
          obtain ⟨hwritten, hbound⟩ := run_eq (cs.takeWhile (· == ':')).length hrest
          rw [← hsplit] at hwritten hbound
          rw [hwritten, hbound]
          exact congrArg (fun r => (List.replicate _ ':' ++ r.1, r.2)) ih
      · have hopen : b.next c ≠ .colon := fun hnext => hc (Before.next_eq_colon.1 hnext).1
        have hdue : (b == .equals && c == ' ' || c == '=') = (b.next c == .equals) := by
          rw [Bool.eq_iff_iff]
          simp [Before.next_eq_equals, or_comm, and_comm]
        have ih := ih (b.next c) 0 fun hb => absurd hb hopen
        have hc' : (c == ':') = false := by simpa using hc
        rw [doubledFrom_kept (by simp [hc]), bindsFrom, rewriteFrom, hc', Bool.and_false,
          Bool.false_and, Bool.false_or, hdue]
        exact congrArg (fun r => (c :: r.1, r.2)) ih

theorem colon_mem_of_bindsFrom {b : Before} {t : Text} (h : bindsFrom b t = true) : ':' ∈ t := by
  induction t generalizing b with
  | nil => simp [bindsFrom] at h
  | cons c cs ih =>
    rw [bindsFrom, Bool.or_eq_true, Bool.and_eq_true, beq_iff_eq] at h
    rcases h with ⟨rfl, -⟩ | h
    · exact List.mem_cons_self
    · exact List.mem_cons_of_mem _ (ih h)

theorem equals_mem_of_bindsFrom {b : Before} {t : Text} (h : bindsFrom b t = true) :
    b = .equals ∨ '=' ∈ t := by
  induction t generalizing b with
  | nil => simp [bindsFrom] at h
  | cons c cs ih =>
    rw [bindsFrom, Bool.or_eq_true, Bool.and_eq_true, beq_iff_eq, beq_iff_eq] at h
    rcases h with ⟨-, rfl⟩ | h
    · exact Or.inl rfl
    · rcases ih h with hnext | hmem
      · rcases Before.next_eq_equals.1 hnext with rfl | ⟨-, hb⟩
        · exact Or.inr List.mem_cons_self
        · exact Or.inl hb
      · exact Or.inr (List.mem_cons_of_mem _ hmem)

/-! ## The escaped text -/

/-- Escaping is doubling from the start, if there is a bind variable. -/
theorem escaped?_eq (t : Text) :
    escaped? t = if binds t then some (doubledFrom .other t) else none := by
  have hread := rewriteFrom_eq .other 0 t (by simp)
  unfold escaped?
  split
  · rename_i hmissing
    rw [if_neg]
    intro hbinds
    have hcolon := colon_mem_of_bindsFrom hbinds
    rcases equals_mem_of_bindsFrom hbinds with hequals | hequals
    · cases hequals
    · simp [hcolon, hequals] at hmissing
  · have hfalse : (Before.other == Before.equals) = false := rfl
    rw [← hfalse, hread]
    rfl

/-- Escaping is doubling from the start, or nothing. -/
theorem escape_eq (t : Text) : escape t = if binds t then doubledFrom .other t else t := by
  rw [escape, escaped?_eq]
  split <;> rfl

theorem binds_escape (t : Text) : binds (escape t) = binds t := by
  rw [escape_eq]
  split
  · exact bindsFrom_doubledFrom .other t
  · rfl

theorem escape_escape (t : Text) : escape (escape t) = escape t := by
  rw [escape_eq (escape t), binds_escape, escape_eq]
  split
  · exact doubledFrom_doubledFrom .other t
  · rfl

theorem mem_escape {t : Text} {x : Char} : x ∈ escape t ↔ x ∈ t := by
  rw [escape_eq]
  split
  · exact mem_doubledFrom
  · rfl

theorem trimmed_escape {t : Text} (h : Text.Trimmed t) : Text.Trimmed (escape t) := by
  rw [escape_eq]
  split
  · exact ⟨fun c hc => h.head c (by rwa [head?_doubledFrom] at hc),
      fun c hc => h.last c (by rwa [getLast?_doubledFrom] at hc)⟩
  · exact h

theorem isInfix_escape {x y : Char} (hx : x ≠ ':') {t : Text} :
    [x, y] <:+: escape t ↔ [x, y] <:+: t := by
  rw [escape_eq]
  split
  · exact isInfix_doubledFrom hx
  · rfl

theorem startsWithWord_escape {word : Text} (hw : Text.avoids word ':' = true)
    (t : Text) : Text.startsWithWord word (escape t) = Text.startsWithWord word t := by
  rw [escape_eq]
  split
  · exact startsWithWord_doubledFrom hw .other t
  · rfl

/-- Words without colons are found at the head of an escaped text if they stood there before. -/
theorem any_startsWithWord_escape {words : List Text}
    (h : words.all (Text.avoids · ':') = true) (t : Text) :
    words.any (Text.startsWithWord · (escape t)) = words.any (Text.startsWithWord · t) := by
  rw [Bool.eq_iff_iff, List.any_eq_true, List.any_eq_true]
  refine exists_congr fun word => and_congr_right fun hword => ?_
  rw [startsWithWord_escape (List.all_eq_true.1 h word hword)]

end NamedSql.Colons
