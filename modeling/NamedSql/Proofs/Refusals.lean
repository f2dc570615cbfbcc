-- Lines that are refused. Such a line leaves the assembly as it was, so a run that goes
-- on behind it ends as if the line had never been there. A run that stops at it stops
-- there whatever comes behind.
import NamedSql.Proofs.Reached

namespace NamedSql

/-! ## The pure model -/

namespace Assembly

/-- The lines that are not refused when all lines are fed. -/
def accepted (a : Assembly) : List Text → List Text
  | [] => []
  | raw :: rest =>
    match a.feed raw with
    | (.ok (), b) => raw :: b.accepted rest
    | (.error _, b) => b.accepted rest

/-! ## One line -/

theorem feed_ok {a b : Assembly} {raw : Text} (h : a.take raw = .ok b) :
    a.feed raw = (.ok (), b) := by
  rw [feed_eq, h]

theorem feed_error {a : Assembly} {raw : Text} {e : ParseError} (h : a.take raw = .error e) :
    a.feed raw = (.error e, a) := by
  rw [feed_eq, h]

theorem feed_refused {a : Assembly} {raw : Text} {e : ParseError}
    (h : (a.feed raw).1 = .error e) : (a.feed raw).2 = a := by
  cases htake : a.take raw with
  | ok b => simp [feed_ok htake] at h
  | error e' => rw [feed_error htake]

/-- A move adds one statement at most, behind the others. -/
theorem Move.done_extends {a b : Assembly} {l : Line} (h : Move a l b) (ha : a.Orderly) :
    ∃ new, b.done.entries = a.done.entries ++ new ∧ new.length ≤ 1 := by
  cases h with
  | outside _ | opens _ | adds _ _ => exact ⟨[], (List.append_nil _).symm, Nat.zero_le 1⟩
  | @closes c d code =>
    exact ⟨_, Catalog.put_of_not_mem (ha.fresh d rfl) _, Nat.le_refl 1⟩

theorem done_feed {a : Assembly} (ha : a.Orderly) {raw : Text} (h : (a.feed raw).1 = .ok ()) :
    ∃ new, (a.feed raw).2.done.entries = a.done.entries ++ new ∧ new.length ≤ 1 := by
  cases htake : a.take raw with
  | ok b =>
    rw [feed_ok htake]
    exact (move_of_step htake).done_extends ha
  | error e => simp [feed_error htake] at h

/-! ## Many lines -/

/-- The accepted lines are all taken, and they lead where all lines lead. -/
theorem takeAll_accepted (a : Assembly) (lines : List Text) :
    a.takeAll (a.accepted lines) = .ok (lines.foldl tryTake a) := by
  induction lines generalizing a with
  | nil => rfl
  | cons raw rest ih =>
    rw [List.foldl_cons, tryTake, accepted]
    cases h : a.take raw with
    | ok b =>
      rw [feed_ok h]
      exact (takeAll_cons_ok h _).trans (ih b)
    | error e =>
      rw [feed_error h]
      exact ih a

theorem foldl_tryTake {a b : Assembly} {lines : List Text} (h : a.takeAll lines = .ok b) :
    lines.foldl tryTake a = b := by
  induction lines generalizing a with
  | nil => exact Except.ok.inj h
  | cons raw rest ih =>
    cases htake : a.take raw with
    | ok next =>
      rw [List.foldl_cons, tryTake, feed_ok htake]
      exact ih (takeAll_cons_ok htake rest ▸ h)
    | error e =>
      rw [takeAll, List.foldlM_cons, htake] at h
      cases h

end Assembly

namespace Script

theorem catalog_of_parseLines {lines : List Text} {c : Catalog} (h : parseLines lines = .ok c) :
    (lines.foldl Assembly.tryTake Assembly.start).catalog = c := by
  obtain ⟨o, htake⟩ := exists_takeAll h
  rw [Assembly.foldl_tryTake htake]
  rfl

theorem orderly_of_parseLines {lines : List Text} {c : Catalog} (h : parseLines lines = .ok c) :
    c.Orderly := by
  rw [← catalog_of_parseLines h]
  exact (Assembly.orderly_start.foldl lines).done

theorem parseLines_append_error {lines : List Text} {e : ParseError}
    (h : parseLines lines = .error e) (more : List Text) :
    parseLines (lines ++ more) = .error e := by
  unfold parseLines at h ⊢
  rw [Assembly.takeAll_eq_steps] at h ⊢
  rw [List.map_append]
  cases hsteps : Assembly.start.steps (lines.map Line.classify) with
  | ok a =>
    rw [hsteps] at h
    cases h
  | error e' =>
    rw [hsteps] at h
    cases h
    rw [Assembly.steps_append_error hsteps]
    rfl

end Script

/-! ## The laws -/

/-- Wherever the lines have led, a line that is refused changes nothing, and a line that is
not refused adds one statement at most. So the lines end where the accepted ones among them
lead, and none of these is refused. Where a run stops at the first line that is refused, more
lines change nothing. -/
theorem a_refused_line_leaves_no_trace (lines : List Text) :
    let a := lines.foldl Assembly.tryTake Assembly.start
    (∀ raw e, (a.feed raw).1 = .error e → (a.feed raw).2 = a) ∧
      (∀ raw, (a.feed raw).1 = .ok () →
        ∃ new, (a.feed raw).2.done.entries = a.done.entries ++ new ∧ new.length ≤ 1) ∧
      Script.parseLines (Assembly.start.accepted lines) = .ok a.catalog ∧
      ∀ e, Script.parseLines lines = .error e →
        ∀ more, Script.parseLines (lines ++ more) = .error e := by
  intro a
  have ha : a.Orderly := Assembly.orderly_start.foldl lines
  refine ⟨fun raw e => Assembly.feed_refused, fun raw => Assembly.done_feed ha, ?_,
    fun e => Script.parseLines_append_error⟩
  unfold Script.parseLines
  rw [Assembly.takeAll_accepted]
  rfl

/-- A statement goes on behind a name that is refused, where the run goes on. -/
theorem a_statement_goes_on_behind_a_refused_name :
    let lines := ["-- tag=name: A".toList, [';'], "-- tag=name: B".toList, "update t".toList,
      "-- tag=name: a".toList, "set x = 1;".toList]
    let a := lines.foldl Assembly.tryTake Assembly.start
    Assembly.start.accepted lines = lines.eraseIdx 4 ∧
      a.catalog.statements.map (·.text) = [[], "update t set x = 1".toList] ∧
      Script.parseLines (lines.eraseIdx 4) = .ok a.catalog ∧
      ∀ more, Script.parseLines (lines ++ more) = .error (.duplicateName ['a']) := by
  intro lines a
  have haccepted : Assembly.start.accepted lines = lines.eraseIdx 4 := by decide +kernel
  have htexts : a.catalog.statements.map (·.text) = [[], "update t set x = 1".toList] := by
    decide +kernel
  have herror : Script.parseLines lines = .error (.duplicateName ['a']) := by decide +kernel
  obtain ⟨-, -, hparse, hmore⟩ := a_refused_line_leaves_no_trace lines
  rw [haccepted] at hparse
  exact ⟨haccepted, htexts, hparse, hmore _ herror⟩

end NamedSql
