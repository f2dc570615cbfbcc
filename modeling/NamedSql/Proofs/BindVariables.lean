-- Bind variables by their places. A colon names a bind variable if an equals sign and then
-- spaces at most stand before it. Beside a bind variable every colon of another use that
-- stands alone is doubled, and nothing else changes, so the bind variables stay what they are
-- and no lone colon is left.
import NamedSql.Proofs.Escaping

namespace NamedSql.Colons

/-! ## The pure model -/

/-- The colons of the `length` places from `start` on name no bind variable, and no such colon
stands beside them. -/
structure LiteralRun (t : Text) (start length : Nat) : Prop where
  pos : 0 < length
  literal : ∀ i, start ≤ i → i < start + length → isLiteral t i = true
  before : ∀ i, i + 1 = start → isLiteral t i = false
  behind : isLiteral t (start + length) = false

def withoutColons (t : Text) : Text := t.filter (· != ':')

/-- What stands before each bind variable, from the first to the last, without its colons. -/
def bindSpots (t : Text) : List Text :=
  ((List.range t.length).filter (isBind t)).map fun i => withoutColons (t.take i)

/-- What stands before the character that follows a text. -/
def Before.ofText (t : Text) : Before := t.foldl Before.next .other

/-- What stands before each bind variable of the rest of a text, where `seen` stands before
the rest. -/
def spotsFrom (b : Before) (seen : Text) : Text → List Text
  | [] => []
  | c :: cs =>
    let spots := spotsFrom (b.next c) (seen ++ withoutColons [c]) cs
    if c = ':' ∧ b = .equals then seen :: spots else spots

/-! ## One place -/

theorem isBind_of_length_le {t : Text} {i : Nat} (h : t.length ≤ i) : isBind t i = false := by
  rw [isBind, List.getElem?_eq_none h]
  rfl

namespace Before

theorem ofText_concat (t : Text) (c : Char) : ofText (t ++ [c]) = (ofText t).next c := by
  unfold ofText
  rw [List.foldl_append]
  rfl

/-- An operand is due behind an equals sign and spaces. -/
theorem ofText_eq_equals (t : Text) :
    ofText t = .equals ↔ (t.reverse.dropWhile (· == ' ')).head? = some '=' := by
  induction t using List.reverseRecOn with
  | nil => simp [ofText]
  | append_singleton t c ih =>
    rw [ofText_concat, List.reverse_concat, next_eq_equals, ih]
    by_cases hspace : c = ' '
    · subst hspace
      simp
    · rw [List.dropWhile_cons_of_neg (by simpa using hspace)]
      simp [hspace]

theorem ofText_eq_colon (t : Text) (c : Char) :
    ofText (t ++ [c]) = .colon ↔ c = ':' ∧ ofText t ≠ .equals := by
  rw [ofText_concat, next_eq_colon]

end Before

section Place

variable (before : Text) (c : Char) (behind : Text)

theorem isBind_append :
    isBind (before ++ c :: behind) before.length = true ↔
      c = ':' ∧ Before.ofText before = .equals := by
  rw [isBind, Bool.and_eq_true, beq_iff_eq, beq_iff_eq, Before.ofText_eq_equals]
  simp

theorem isLiteral_append :
    isLiteral (before ++ c :: behind) before.length = true ↔
      Before.ofText (before ++ [c]) = .colon := by
  rw [isLiteral, Bool.and_eq_true, Bool.not_eq_true', Bool.eq_false_iff, ne_eq, isBind_append,
    Before.ofText_eq_colon]
  simp
  grind

theorem isLiteral_behind_colon :
    isLiteral (before ++ ':' :: behind) (before.length + 1) = true ↔
      behind.head? = some ':' := by
  cases behind with
  | nil => simp [isLiteral]
  | cons d ds =>
    have hcut := isLiteral_append (before ++ [':']) d ds
    rw [List.append_assoc, List.length_append, Before.ofText_eq_colon, Before.ofText_concat, ne_eq,
      Before.next_eq_equals] at hcut
    simpa using hcut

/-- A literal colon stands before this place if the text up to here says so. -/
theorem isLiteral_before :
    (before.length != 0 && isLiteral (before ++ c :: behind) (before.length - 1)) = true ↔
      Before.ofText before = .colon := by
  rcases List.eq_nil_or_concat before with rfl | ⟨init, d, rfl⟩
  · simp [Before.ofText]
  · rw [List.concat_eq_append, ← isLiteral_append init d (c :: behind), List.append_assoc]
    simp

theorem isLone_append :
    isLone (before ++ c :: behind) before.length = true ↔
      c = ':' ∧ Before.ofText before = .other ∧ behind.head? ≠ some ':' := by
  rw [isLone, Bool.and_eq_true, Bool.and_eq_true, Bool.not_eq_true', Bool.not_eq_true',
    Bool.eq_false_iff, Bool.eq_false_iff, ne_eq, ne_eq, isLiteral_before, isLiteral_append,
    Before.ofText_eq_colon]
  by_cases hc : c = ':'
  · subst hc
    rw [isLiteral_behind_colon]
    cases Before.ofText before <;> simp
  · simp [hc]

end Place

/-! ## All places -/

/-- Doubling from a place on is doubling the rest, place by place. -/
theorem flatMap_places (before t : Text) :
    ((List.range' before.length t.length).flatMap fun i =>
        if isLone (before ++ t) i then [':', ':'] else (before ++ t)[i]?.toList) =
      doubledFrom (Before.ofText before) t := by
  induction t generalizing before with
  | nil => rfl
  | cons c cs ih =>
    have ih := ih (before ++ [c])
    rw [List.append_assoc, List.singleton_append, List.length_append, List.length_singleton,
      Before.ofText_concat] at ih
    rw [List.length_cons, List.range'_succ, List.flatMap_cons, ih]
    by_cases h : c = ':' ∧ Before.ofText before = .other ∧ cs.head? ≠ some ':'
    · rw [if_pos ((isLone_append before c cs).2 h), doubledFrom_lone h, h.1, h.2.1]
      rfl
    · rw [if_neg (mt (isLone_append before c cs).1 h), doubledFrom_kept h]
      simp

theorem doubledByPlace_eq (t : Text) : doubledByPlace t = doubledFrom .other t := by
  rw [doubledByPlace, List.range_eq_range']
  exact flatMap_places [] t

theorem withoutColons_append (s t : Text) :
    withoutColons (s ++ t) = withoutColons s ++ withoutColons t := List.filter_append _ _

/-- What stands before the bind variables from a place on. -/
theorem map_spots (before t : Text) :
    (((List.range' before.length t.length).filter (isBind (before ++ t))).map fun i =>
        withoutColons ((before ++ t).take i)) =
      spotsFrom (Before.ofText before) (withoutColons before) t := by
  induction t generalizing before with
  | nil => rfl
  | cons c cs ih =>
    have ih := ih (before ++ [c])
    rw [List.append_assoc, List.singleton_append, List.length_append, List.length_singleton,
      Before.ofText_concat, withoutColons_append] at ih
    rw [List.length_cons, List.range'_succ, List.filter_cons, spotsFrom, ← ih]
    by_cases h : c = ':' ∧ Before.ofText before = .equals
    · rw [if_pos ((isBind_append before c cs).2 h), if_pos h, List.map_cons, List.take_left]
    · rw [if_neg (mt (isBind_append before c cs).1 h), if_neg h]

theorem bindSpots_eq (t : Text) : bindSpots t = spotsFrom .other [] t := by
  rw [bindSpots, List.range_eq_range']
  exact map_spots [] t

theorem bindsFrom_iff_spots (b : Before) (seen t : Text) :
    bindsFrom b t = true ↔ spotsFrom b seen t ≠ [] := by
  induction t generalizing b seen with
  | nil => simp [bindsFrom, spotsFrom]
  | cons c cs ih =>
    rw [bindsFrom, spotsFrom, Bool.or_eq_true, ih (b.next c) (seen ++ withoutColons [c])]
    by_cases h : c = ':' ∧ b = .equals
    · simp [h]
    · rw [if_neg h]
      simp [h]

/-- A text has a bind variable if one of its places has. -/
theorem binds_iff (t : Text) : binds t = true ↔ ∃ i, isBind t i = true := by
  rw [binds, bindsFrom_iff_spots .other [], ← bindSpots_eq, bindSpots, ne_eq, List.map_eq_nil_iff,
    List.filter_eq_nil_iff, not_forall]
  constructor
  · rintro ⟨i, hi⟩
    exact ⟨i, by_contra fun hnot => hi fun _ => hnot⟩
  · rintro ⟨i, hi⟩
    refine ⟨i, fun hnot => hnot (List.mem_range.2 ?_) hi⟩
    by_contra hge
    rw [isBind_of_length_le (Nat.le_of_not_lt hge)] at hi
    exact Bool.false_ne_true hi

/-! ## The text after doubling -/

theorem withoutColons_doubledFrom (b : Before) (t : Text) :
    withoutColons (doubledFrom b t) = withoutColons t := by
  induction t generalizing b with
  | nil => rfl
  | cons c cs ih =>
    by_cases h : c = ':' ∧ b = .other ∧ cs.head? ≠ some ':'
    · rw [doubledFrom_lone h, h.1]
      exact ih .colon
    · rw [doubledFrom_kept h, ← List.singleton_append, withoutColons_append, ih,
        ← withoutColons_append, List.singleton_append]

theorem spotsFrom_doubledFrom (b : Before) (seen t : Text) :
    spotsFrom b seen (doubledFrom b t) = spotsFrom b seen t := by
  induction t generalizing b seen with
  | nil => rfl
  | cons c cs ih =>
    by_cases h : c = ':' ∧ b = .other ∧ cs.head? ≠ some ':'
    · rw [doubledFrom_lone h]
      obtain ⟨rfl, rfl, -⟩ := h
      -- Neither of the two colons is a bind variable, and neither is seen.
      change spotsFrom .colon (seen ++ [] ++ []) (doubledFrom .colon cs) =
        spotsFrom .colon (seen ++ []) cs
      rw [ih, List.append_nil]
    · rw [doubledFrom_kept h, spotsFrom, spotsFrom, ih]

/-- Where doubling changes nothing, a literal colon that follows no other is followed by one. -/
theorem head?_of_doubledFrom_eq {before behind : Text} {b : Before}
    (h : doubledFrom b (before ++ ':' :: behind) = before ++ ':' :: behind)
    (hb : before.foldl Before.next b = .other) : behind.head? = some ':' := by
  induction before generalizing b with
  | nil =>
    obtain rfl : b = .other := hb
    by_contra hhead
    rw [List.nil_append, doubledFrom_lone ⟨rfl, rfl, hhead⟩] at h
    rw [← List.tail_eq_of_cons_eq h] at hhead
    exact hhead rfl
  | cons c cs ih =>
    rw [List.cons_append] at h
    by_cases hlone : c = ':' ∧ b = .other ∧ (cs ++ ':' :: behind).head? ≠ some ':'
    · rw [doubledFrom_lone hlone, hlone.1] at h
      rw [← List.tail_eq_of_cons_eq h] at hlone
      exact absurd rfl hlone.2.2
    · rw [doubledFrom_kept hlone] at h
      exact ih (List.tail_eq_of_cons_eq h) hb

theorem not_isLone_of_doubledFrom_eq {t : Text} (h : doubledFrom .other t = t) (i : Nat) :
    isLone t i = false := by
  rw [Bool.eq_false_iff]
  intro hlone
  have hi : i < t.length := by
    rw [isLone, isLiteral, Bool.and_eq_true, Bool.and_eq_true, Bool.and_eq_true,
      beq_iff_eq] at hlone
    exact (List.getElem?_eq_some_iff.1 hlone.1.1.1).1
  have hlen : (t.take i).length = i := List.length_take_of_le (Nat.le_of_lt hi)
  have hsplit : t = t.take i ++ t[i] :: t.drop (i + 1) := by
    rw [List.getElem_cons_drop, List.take_append_drop]
  have hcut := isLone_append (t.take i) t[i] (t.drop (i + 1))
  rw [← hsplit, hlen] at hcut
  obtain ⟨hcolon, hother, hhead⟩ := hcut.1 hlone
  rw [hcolon] at hsplit
  rw [hsplit] at h
  exact hhead (head?_of_doubledFrom_eq h hother)

/-! ## Runs -/

theorem isLone_iff_literalRun (t : Text) (i : Nat) : isLone t i = true ↔ LiteralRun t i 1 := by
  rw [isLone, Bool.and_eq_true, Bool.and_eq_true, Bool.not_eq_true', Bool.not_eq_true']
  constructor
  · rintro ⟨⟨hliteral, hbefore⟩, hbehind⟩
    refine ⟨Nat.one_pos, fun j hj hlt => ?_, fun j hj => ?_, hbehind⟩
    · obtain rfl : j = i := by omega
      exact hliteral
    · subst hj
      simpa using hbefore
  · intro h
    refine ⟨⟨h.literal i (Nat.le_refl i) (Nat.lt_succ_self i), ?_⟩, h.behind⟩
    cases i with
    | zero => rfl
    | succ i => simpa using h.before i rfl

/-- A bind variable in full: an equals sign, spaces and the colon. -/
theorem isBind_iff (t : Text) (i : Nat) :
    isBind t i = true ↔
      t[i]? = some ':' ∧ ∃ before n, t.take i = before ++ '=' :: List.replicate n ' ' := by
  rw [isBind, Bool.and_eq_true, beq_iff_eq, beq_iff_eq]
  refine and_congr_right fun _ => ?_
  generalize t.take i = s
  constructor
  · intro h
    obtain ⟨r, hr⟩ := List.head?_eq_some_iff.1 h
    have hsplit := List.takeWhile_append_dropWhile (p := (· == ' ')) (l := s.reverse)
    have hspaces : s.reverse.takeWhile (· == ' ') =
        List.replicate (s.reverse.takeWhile (· == ' ')).length ' ' :=
      List.eq_replicate_of_mem fun c hc => by simpa using List.mem_takeWhile_imp hc
    refine ⟨r.reverse, (s.reverse.takeWhile (· == ' ')).length, ?_⟩
    rw [hr, hspaces] at hsplit
    simpa using congrArg List.reverse hsplit.symm
  · rintro ⟨before, n, rfl⟩
    rw [List.reverse_append, List.reverse_cons, List.reverse_replicate, List.append_assoc,
      List.dropWhile_append_of_pos fun c hc => by simp [List.eq_of_mem_replicate hc]]
    simp

/-! ## The laws -/

/-- A colon names a bind variable if an equals sign and spaces at most stand before it. A text
without bind variables stays as it is. In any other text each run of one colon that names no
bind variable becomes a run of two, and all else is kept: the characters that are no colons,
and the bind variables with what stands before them. Then every run of colons that name no bind
variable has two at least. -/
theorem lone_colons_beside_bind_variables_are_doubled (t : Text) :
    (∀ i, isBind t i = true ↔
      t[i]? = some ':' ∧ ∃ before n, t.take i = before ++ '=' :: List.replicate n ' ') ∧
    (∀ i, isLone t i = true ↔ LiteralRun t i 1) ∧
    ((∀ i, isBind t i = false) → escaped? t = none ∧ escape t = t) ∧
    (∀ i, isBind t i = true → escaped? t = some (doubledByPlace t)) ∧
    withoutColons (escape t) = withoutColons t ∧
    bindSpots (escape t) = bindSpots t ∧
    ∀ s, escaped? t = some s → ∀ start length, LiteralRun s start length → 2 ≤ length := by
  have hnone : (∀ i, isBind t i = false) → binds t = false := by
    intro h
    rw [Bool.eq_false_iff, ne_eq, binds_iff]
    rintro ⟨i, hi⟩
    rw [h i] at hi
    exact Bool.false_ne_true hi
  refine ⟨isBind_iff t, isLone_iff_literalRun t, fun h => ?_, fun i hi => ?_, ?_, ?_, ?_⟩
  · rw [escape_eq, escaped?_eq, hnone h]
    exact ⟨rfl, rfl⟩
  · rw [escaped?_eq, (binds_iff t).2 ⟨i, hi⟩, doubledByPlace_eq, if_pos rfl]
  · rw [escape_eq]
    split
    · exact withoutColons_doubledFrom .other t
    · rfl
  · rw [escape_eq]
    split
    · rw [bindSpots_eq, bindSpots_eq, spotsFrom_doubledFrom]
    · rfl
  · intro s hs start length hrun
    have hs : doubledFrom .other t = s := by
      rw [escaped?_eq] at hs
      split at hs
      · exact Option.some.inj hs
      · cases hs
    have hlone : isLone s start = false := by
      rw [← hs]
      exact not_isLone_of_doubledFrom_eq (doubledFrom_doubledFrom .other t) start
    by_contra hshort
    have hpos := hrun.pos
    obtain rfl : length = 1 := by omega
    rw [(isLone_iff_literalRun s start).2 hrun] at hlone
    cases hlone

/-- Colons behind an equals sign: one that is reached through spaces, one behind a tab, a lone
one right behind a bind variable, and runs of one, two and three elsewhere. In another text the
only equals sign is too far from the colon. -/
theorem colons_behind_an_equals_sign :
    let t := ":a= =  :b:c::d=\t:e=::f:::".toList
    let s := "::a= =  :b::c::d=\t::e=:::f:::".toList
    let u := "a=b:c".toList
    isBind t 7 = true ∧ escaped? t = some (doubledByPlace t) ∧ escaped? t = some s ∧
      (∀ length, LiteralRun s 23 length → 2 ≤ length) ∧ isBind s 22 = true ∧
      (∀ i, isBind u i = false) ∧ escaped? u = none := by
  intro t s u
  obtain ⟨-, -, -, hdoubled, -, -, hruns⟩ := lone_colons_beside_bind_variables_are_doubled t
  obtain ⟨-, -, hkept, -⟩ := lone_colons_beside_bind_variables_are_doubled u
  have hbind : isBind t 7 = true := by decide +kernel
  have hs : escaped? t = some s := by decide +kernel
  have hfree : ∀ i, isBind u i = false := by
    intro i
    rcases Nat.lt_or_ge i u.length with hi | hi
    · have hall : ∀ i < "a=b:c".toList.length, isBind "a=b:c".toList i = false := by decide +kernel
      exact hall i hi
    · exact isBind_of_length_le hi
  exact ⟨hbind, hdoubled 7 hbind, hs, hruns s hs 23, by decide +kernel, hfree, (hkept hfree).1⟩

end NamedSql.Colons
