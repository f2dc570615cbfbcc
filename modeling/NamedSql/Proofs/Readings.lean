-- Readings of a text from left to right. A reading passes over most characters, and what it
-- knows of a text that goes on is the mode in which it comes to the end of the part.
import NamedSql.Line.Classify
import NamedSql.Proofs.Trimming

namespace NamedSql

/-! ## The pure model -/

namespace ScanMark

def place : ScanMark → Nat
  | .terminator i | .dashes i => i

/-- What stands at a mark. -/
def word : ScanMark → Text
  | .terminator _ => [';']
  | .dashes _ => ['-', '-']

end ScanMark

/-- The words that a reading looks out for. It passes over every character where none of
them stands. -/
def ScanMode.words : ScanMode → List Text
  | .code => [['/', '*'], ['-', '-'], [';']]
  | .block => [['*', '/']]
  | .codeBehind => [['-', '-'], [';']]

namespace Line

/-- The mode in which a reading comes to the end of a text, if nothing stops it before. -/
def modeAfter : ScanMode → Text → ScanMode
  | .block, '*' :: '/' :: rest => modeAfter .codeBehind rest
  | .code, '/' :: '*' :: rest => modeAfter .block rest
  | mode, _ :: rest => modeAfter mode rest
  | mode, [] => mode

/-- A reading passes over the first character of the text. -/
def Passed (mode : ScanMode) (t : Text) : Prop := ∀ word ∈ mode.words, ¬ word <+: t

/-- The text does not start with the second half of a mark. -/
def StartsApart (t : Text) : Prop := ∀ c, t.head? = some c → c ≠ '*' ∧ c ≠ '/' ∧ c ≠ '-'

/-! ## One step of the reading -/

theorem pair_isPrefix_cons {x y c : Char} {cs : Text} :
    [x, y] <+: c :: cs ↔ c = x ∧ ∃ rest, cs = y :: rest := by
  rw [List.cons_prefix_cons, List.singleton_prefix_iff_head?_eq_some, List.head?_eq_some_iff,
    eq_comm]

theorem marksFrom_code_cons (i : Nat) (c : Char) (cs : Text) :
    marksFrom .code i (c :: cs) =
      if ['/', '*'] <+: c :: cs then marksFrom .block (i + 2) (cs.drop 1)
      else if ['-', '-'] <+: c :: cs then [.dashes i]
      else if c = ';' then .terminator i :: marksFrom .code (i + 1) cs
      else marksFrom .code (i + 1) cs := by
  have hopening := @pair_isPrefix_cons '/' '*' c cs
  have hdashes := @pair_isPrefix_cons '-' '-' c cs
  rw [marksFrom.eq_def]
  split <;> grind

theorem marksFrom_block_cons (i : Nat) (c : Char) (cs : Text) :
    marksFrom .block i (c :: cs) =
      if ['*', '/'] <+: c :: cs then marksFrom .codeBehind (i + 2) (cs.drop 1)
      else marksFrom .block (i + 1) cs := by
  have hclosing := @pair_isPrefix_cons '*' '/' c cs
  rw [marksFrom.eq_def]
  split <;> grind

theorem marksFrom_codeBehind_cons (i : Nat) (c : Char) (cs : Text) :
    marksFrom .codeBehind i (c :: cs) =
      if ['-', '-'] <+: c :: cs then [.dashes i]
      else if c = ';' then .terminator i :: marksFrom .codeBehind (i + 1) cs
      else marksFrom .codeBehind (i + 1) cs := by
  have hdashes := @pair_isPrefix_cons '-' '-' c cs
  rw [marksFrom.eq_def]
  split <;> grind

/-! ## Characters that are passed over -/

theorem passed_block {c : Char} {cs : Text} (h : ∀ rest, c = '*' → cs = '/' :: rest → False) :
    Passed .block (c :: cs) := by
  intro word hword
  rw [List.mem_singleton.1 hword, pair_isPrefix_cons]
  rintro ⟨hc, rest, hcs⟩
  exact h rest hc hcs

theorem passed_code {mode : ScanMode} {c : Char} {cs : Text} (hmode : mode = .block → False)
    (hopening : ∀ rest, mode = .code → c = '/' → cs = '*' :: rest → False)
    (hdashes : ∀ rest, c = '-' → cs = '-' :: rest → False) (hterm : c = ';' → False) :
    Passed mode (c :: cs) := by
  have hdashes' : ¬ ['-', '-'] <+: c :: cs := by
    rw [pair_isPrefix_cons]
    rintro ⟨hc, rest, hcs⟩
    exact hdashes rest hc hcs
  have hterm' : ¬ [';'] <+: c :: cs := by simpa [eq_comm] using hterm
  cases mode with
  | block => exact absurd rfl hmode
  | codeBehind => simp [Passed, ScanMode.words, hdashes', hterm']
  | code =>
    have hopening' : ¬ ['/', '*'] <+: c :: cs := by
      rw [pair_isPrefix_cons]
      rintro ⟨hc, rest, hcs⟩
      exact hopening rest rfl hc hcs
    simp [Passed, ScanMode.words, hopening', hdashes', hterm']

theorem marksFrom_passed {mode : ScanMode} {c : Char} {cs : Text} (h : Passed mode (c :: cs))
    (i : Nat) : marksFrom mode i (c :: cs) = marksFrom mode (i + 1) cs := by
  cases mode with
  | code =>
    simp only [Passed, ScanMode.words, List.forall_mem_cons] at h
    obtain ⟨hopening, hdashes, hterm, -⟩ := h
    rw [marksFrom_code_cons, if_neg hopening, if_neg hdashes, if_neg (by simpa [eq_comm] using hterm)]
  | block =>
    simp only [Passed, ScanMode.words, List.forall_mem_cons] at h
    rw [marksFrom_block_cons, if_neg h.1]
  | codeBehind =>
    simp only [Passed, ScanMode.words, List.forall_mem_cons] at h
    obtain ⟨hdashes, hterm, -⟩ := h
    rw [marksFrom_codeBehind_cons, if_neg hdashes, if_neg (by simpa [eq_comm] using hterm)]

theorem modeAfter_code_cons (c : Char) (cs : Text) :
    modeAfter .code (c :: cs) =
      if ['/', '*'] <+: c :: cs then modeAfter .block (cs.drop 1) else modeAfter .code cs := by
  have hopening := @pair_isPrefix_cons '/' '*' c cs
  rw [modeAfter.eq_def]
  split <;> grind

theorem modeAfter_block_cons (c : Char) (cs : Text) :
    modeAfter .block (c :: cs) =
      if ['*', '/'] <+: c :: cs then modeAfter .codeBehind (cs.drop 1)
      else modeAfter .block cs := by
  have hclosing := @pair_isPrefix_cons '*' '/' c cs
  rw [modeAfter.eq_def]
  split <;> grind

theorem modeAfter_codeBehind (t : Text) : modeAfter .codeBehind t = .codeBehind := by
  induction t with
  | nil => rfl
  | cons c cs ih => simpa [modeAfter] using ih

theorem modeAfter_passed {mode : ScanMode} {c : Char} {cs : Text} (h : Passed mode (c :: cs)) :
    modeAfter mode (c :: cs) = modeAfter mode cs := by
  simp only [Passed] at h
  cases mode with
  | code => rw [modeAfter_code_cons, if_neg (h _ List.mem_cons_self)]
  | block => rw [modeAfter_block_cons, if_neg (h _ List.mem_cons_self)]
  | codeBehind => rw [modeAfter_codeBehind, modeAfter_codeBehind]

/-- Two characters stand together where they did, unless the text goes on with the second. -/
theorem pair_isPrefix_append {x y c : Char} {cs t : Text} (h : cs = [] → t.head? ≠ some y) :
    [x, y] <+: c :: (cs ++ t) ↔ [x, y] <+: c :: cs := by
  rw [pair_isPrefix_cons, pair_isPrefix_cons]
  refine and_congr_right fun _ => ?_
  cases cs with
  | nil =>
    simp only [List.nil_append, List.nil_eq, reduceCtorEq, exists_false, iff_false]
    rintro ⟨rest, rfl⟩
    exact h rfl rfl
  | cons d ds => simp

/-- A character is passed over whatever stands behind the text, unless that completes a mark. -/
theorem Passed.append {mode : ScanMode} {c : Char} {cs t : Text} (h : Passed mode (c :: cs))
    (ht : cs = [] → StartsApart t) : Passed mode (c :: (cs ++ t)) := by
  have hstar : cs = [] → t.head? ≠ some '*' := fun hcs hhead => (ht hcs _ hhead).1 rfl
  have hslash : cs = [] → t.head? ≠ some '/' := fun hcs hhead => (ht hcs _ hhead).2.1 rfl
  have hdash : cs = [] → t.head? ≠ some '-' := fun hcs hhead => (ht hcs _ hhead).2.2 rfl
  cases mode <;>
    simpa [Passed, ScanMode.words, pair_isPrefix_append hstar, pair_isPrefix_append hslash,
      pair_isPrefix_append hdash] using h

theorem startsApart_terminator (t : Text) : StartsApart (';' :: t) := by
  intro c hc
  obtain rfl := Option.some.inj hc
  decide

/-! ## Marks of a text that goes on -/

/-- At every place that a reading marks stands the word of the mark. -/
theorem mem_marksFrom {mode : ScanMode} {i : Nat} {t : Text} {m : ScanMark}
    (h : m ∈ marksFrom mode i t) : ∃ k, m.place = i + k ∧ m.word <+: t.drop k := by
  fun_induction marksFrom mode i t with
  | case1 i rest ih | case3 i rest ih =>
    obtain ⟨k, hk, hword⟩ := ih h
    exact ⟨k + 2, by omega, hword⟩
  | case2 i c rest hclosing ih =>
    obtain ⟨k, hk, hword⟩ := ih h
    exact ⟨k + 1, by omega, hword⟩
  | case4 mode i rest hmode =>
    obtain rfl := List.mem_singleton.1 h
    exact ⟨0, rfl, List.prefix_append _ _⟩
  | case5 mode i rest hmode ih =>
    rcases List.mem_cons.1 h with rfl | h
    · exact ⟨0, rfl, List.prefix_append _ _⟩
    · obtain ⟨k, hk, hword⟩ := ih h
      exact ⟨k + 1, by omega, hword⟩
  | case6 mode i c rest _ hmode hopening hdashes hterm ih =>
    obtain ⟨k, hk, hword⟩ := ih h
    exact ⟨k + 1, by omega, hword⟩
  | case7 mode i => exact absurd h List.not_mem_nil

/-- What is met first in a text is met first however the text goes on. -/
theorem head?_marksFrom_append {mode : ScanMode} {i : Nat} {s : Text} {m : ScanMark}
    (h : (marksFrom mode i s).head? = some m) (t : Text) :
    (marksFrom mode i (s ++ t)).head? = some m := by
  -- Nothing is met behind the last character, so a mark that is met ends before the border.
  have hborder : ∀ {mode i} {rest : Text}, (marksFrom mode i rest).head? = some m →
      rest = [] → StartsApart t := by
    rintro mode i _ hmet rfl
    cases mode <;> cases hmet
  fun_induction marksFrom mode i s with
  | case1 i rest ih | case3 i rest ih =>
    rw [List.cons_append, List.cons_append, marksFrom]
    exact ih h
  | case2 i c rest hclosing ih =>
    have hpassed := (passed_block hclosing).append (hborder h)
    rw [List.cons_append, marksFrom_passed hpassed]
    exact ih h
  | case4 mode i rest hmode =>
    rw [List.cons_append, List.cons_append, marksFrom] <;> assumption
  | case5 mode i rest hmode ih =>
    rw [List.cons_append, marksFrom] <;> assumption
  | case6 mode i c rest _ hmode hopening hdashes hterm ih =>
    have hpassed := (passed_code hmode hopening hdashes hterm).append (hborder h)
    rw [List.cons_append, marksFrom_passed hpassed]
    exact ih h
  | case7 mode i => cases mode <;> cases h

theorem modeAfter_terminator (mode : ScanMode) (cs : Text) :
    modeAfter mode (';' :: cs) = modeAfter mode cs := by
  cases mode with
  | code => rw [modeAfter_code_cons, if_neg (by simp)]
  | block => rw [modeAfter_block_cons, if_neg (by simp)]
  | codeBehind => rw [modeAfter_codeBehind, modeAfter_codeBehind]

/-- A reading goes on behind a text in the mode in which it comes to its end, unless it has met
the dashes. -/
theorem marksFrom_append (mode : ScanMode) (i : Nat) (s : Text) {t : Text} (ht : StartsApart t) :
    marksFrom mode i (s ++ t) = marksFrom mode i s ++
      if (marksFrom mode i s).any (·.dashes?.isSome) then []
      else marksFrom (modeAfter mode s) (i + s.length) t := by
  have hplace : ∀ (i n : Nat), i + 1 + n = i + (n + 1) := fun i n => by omega
  fun_induction marksFrom mode i s with
  | case1 i rest ih | case3 i rest ih =>
    have hplace : i + 2 + rest.length = i + (rest.length + 1 + 1) := by omega
    rw [List.cons_append, List.cons_append, marksFrom, modeAfter, ih, List.length_cons,
      List.length_cons, hplace]
  | case2 i c rest hclosing ih =>
    have hpassed := passed_block hclosing
    rw [List.cons_append, marksFrom_passed (hpassed.append fun _ => ht), modeAfter_passed hpassed,
      ih, List.length_cons, hplace]
  | case4 mode i rest hmode =>
    rw [List.cons_append, List.cons_append, marksFrom]
    · rfl
    · exact hmode
  | case5 mode i rest hmode ih =>
    rw [List.cons_append, marksFrom, ih, modeAfter_terminator, List.length_cons, hplace]
    · rfl
    · exact hmode
  | case6 mode i c rest _ hmode hopening hdashes hterm ih =>
    have hpassed := passed_code hmode hopening hdashes hterm
    rw [List.cons_append, marksFrom_passed (hpassed.append fun _ => ht), modeAfter_passed hpassed,
      ih, List.length_cons, hplace]
  | case7 mode i => cases mode <;> rfl

theorem marksFrom_append_of_nil {mode : ScanMode} {i : Nat} {s t : Text}
    (h : marksFrom mode i s = []) (ht : StartsApart t) :
    marksFrom mode i (s ++ t) = marksFrom (modeAfter mode s) (i + s.length) t := by
  rw [marksFrom_append mode i s ht, h]
  rfl

/-! ## White space -/

theorem ne_of_isSpace {c d : Char} (hc : Text.isSpace c = true) (hd : Text.isSpace d = false) :
    c ≠ d := by
  rintro rfl
  rw [hc] at hd
  cases hd

/-- No mark starts with white space. -/
theorem passed_of_isSpace (mode : ScanMode) {c : Char} (hc : Text.isSpace c = true) (cs : Text) :
    Passed mode (c :: cs) := by
  have hwords : mode.words.all (·.head?.any fun d => !Text.isSpace d) = true := by
    cases mode <;> decide
  intro word hword hprefix
  have hhead := List.all_eq_true.1 hwords word hword
  cases word with
  | nil => cases hhead
  | cons d ds =>
    obtain ⟨rfl, -⟩ := List.cons_prefix_cons.1 hprefix
    simp [hc] at hhead

theorem marksFrom_spaces_append (mode : ScanMode) (i : Nat) {w : Text}
    (h : ∀ c ∈ w, Text.isSpace c = true) (t : Text) :
    marksFrom mode i (w ++ t) = marksFrom mode (i + w.length) t := by
  induction w generalizing i with
  | nil => rfl
  | cons c cs ih =>
    rw [List.cons_append, marksFrom_passed (passed_of_isSpace mode (h c List.mem_cons_self) _),
      ih (i + 1) fun x hx => h x (List.mem_cons_of_mem _ hx), List.length_cons, Nat.add_assoc,
      Nat.add_comm 1]

theorem startsApart_spaces_append {w t : Text} (hw : ∀ c ∈ w, Text.isSpace c = true)
    (ht : w = [] → StartsApart t) : StartsApart (w ++ t) := by
  cases w with
  | nil => exact ht rfl
  | cons d ds =>
    intro c hc
    obtain rfl := Option.some.inj hc
    have hd := hw d List.mem_cons_self
    exact ⟨ne_of_isSpace hd (by decide), ne_of_isSpace hd (by decide), ne_of_isSpace hd (by decide)⟩

theorem marksFrom_append_spaces (mode : ScanMode) (i : Nat) (t : Text) {w : Text}
    (h : ∀ c ∈ w, Text.isSpace c = true) : marksFrom mode i (t ++ w) = marksFrom mode i t := by
  have hnone : ∀ mode i, marksFrom mode i w = [] := fun mode i => by
    have hspaces := marksFrom_spaces_append mode i h []
    rw [List.append_nil] at hspaces
    rw [hspaces]
    cases mode <;> rfl
  have hapart := startsApart_spaces_append h (t := []) fun _ => nofun
  rw [List.append_nil] at hapart
  rw [marksFrom_append mode i t hapart, hnone, ite_self, List.append_nil]

end Line

end NamedSql
