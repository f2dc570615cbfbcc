-- The notices of a whole script account for its statements. Every name tag that is taken
-- starts one, and it is finished, abandoned for another, or still open at the end. One line
-- leaves the account in balance, and so do all lines that are fed.
import NamedSql.Proofs.Walks

namespace NamedSql

/-! ## The pure model -/

namespace Notice

def strayTag? : Notice → Option Text
  | .strayTag key => some key
  | _ => none

def abandoned? : Notice → Option Text
  | .abandoned name => some name
  | _ => none

def finished? : Notice → Option (Text × Nat × Kind)
  | .finished name ordinal kind => some (name, ordinal, kind)
  | _ => none

def dropped? : Notice → Option Text
  | .dropped name => some name
  | _ => none

def ended? : Notice → Option (Nat × Nat × Nat)
  | .ended size sequential concurrent => some (size, sequential, concurrent)
  | _ => none

/-- The level of a notice tells losses from all else, and its message says what was lost,
finished or counted. -/
structure WellTold (n : Notice) : Prop where
  trace : n.level = .trace ↔ ∃ line, n = .classified line
  warn : n.level = .warn ↔ n.strayTag?.isSome ∨ n.abandoned?.isSome ∨ n.dropped?.isSome
  debug : n.level = .debug ↔ n.finished?.isSome ∨ n.ended?.isSome
  strayTag : ∀ key, n.strayTag? = some key →
    n.message = "ignoring tag ".toList ++ Text.quoted key ++
      " outside of a named statement".toList
  abandoned : ∀ name, n.abandoned? = some name →
    n.message = "statement ".toList ++ Text.quoted name ++
      " abandoned before its terminator".toList
  dropped : ∀ name, n.dropped? = some name →
    n.message = "dropping unterminated statement ".toList ++ Text.quoted name ++
      " at end of input".toList
  finished : ∀ name ordinal kind, n.finished? = some (name, ordinal, kind) →
    n.message = "statement ".toList ++ Text.quoted name ++ " #".toList ++
      Nat.toDigits 10 ordinal ++ " finalized as ".toList ++ kind.label
  ended : ∀ size sequential concurrent, n.ended? = some (size, sequential, concurrent) →
    n.message = "froze ".toList ++ Nat.toDigits 10 size ++ " statements: ".toList ++
      Nat.toDigits 10 sequential ++ " sequential, ".toList ++ Nat.toDigits 10 concurrent ++
      " concurrent-eligible".toList

end Notice

/-- Any tag but a name tag. -/
def Line.isTag : Line → Bool
  | .tag _ _ => true
  | _ => false

/-- The statements as the notices of their ends name them: counted, in order, with name and
kind. -/
def Catalog.finishes (c : Catalog) : List (Text × Nat × Kind) :=
  c.entries.zipIdx.map fun (e, i) => (e.1, i, e.2.kind)

namespace Assembly

/-- The line is a name tag that is not refused. -/
def opens (a : Assembly) (raw : Text) : Bool := (Line.classify raw).isName && (a.take raw).isOk

/-- The line is a tag outside of every statement. -/
def strays (a : Assembly) (raw : Text) : Bool := (Line.classify raw).isTag && a.draft.isNone

/-- The lines that are fed, each with the assembly that takes it or refuses it. Behind a line
that is refused no line is fed. -/
def feeds (a : Assembly) : List Text → List (Assembly × Text)
  | [] => []
  | raw :: rest =>
    (a, raw) ::
      match a.take raw with
      | .ok b => b.feeds rest
      | .error _ => []

/-- The assembly behind the lines that are fed. -/
def ending (a : Assembly) (lines : List Text) : Assembly :=
  ((a.feeds lines).map (·.2)).foldl tryTake a

/-- What is noticed of the lines that are fed. -/
def told (a : Assembly) (lines : List Text) : List Notice :=
  (a.feeds lines).flatMap fun f => f.1.noticesOf f.2

/-- The notices tell all that has happened between two assemblies, where `opened` name tags and
`strayed` tags outside of statements have been met. -/
structure Accounts (a b : Assembly) (opened strayed : Nat) (ns : List Notice) : Prop where
  opened : opened + a.draft.isSome.toNat =
    (ns.filterMap Notice.finished?).length + (ns.filterMap Notice.abandoned?).length +
      b.draft.isSome.toNat
  finished : b.done.finishes = a.done.finishes ++ ns.filterMap Notice.finished?
  strayed : (ns.filterMap Notice.strayTag?).length = strayed
  dropped : ns.filterMap Notice.dropped? = []
  ended : ns.filterMap Notice.ended? = []

end Assembly

/-! ## One notice -/

namespace Notice

theorem wellTold (n : Notice) : n.WellTold where
  trace := by cases n <;> simp [level]
  warn := by cases n <;> simp [level, strayTag?, abandoned?, dropped?]
  debug := by cases n <;> simp [level, finished?, ended?]
  strayTag := by
    rintro key h
    cases n <;> cases h
    rfl
  abandoned := by
    rintro name h
    cases n <;> cases h
    rfl
  dropped := by
    rintro name h
    cases n <;> cases h
    rfl
  finished := by
    rintro name ordinal kind h
    cases n <;> cases h
    rfl
  ended := by
    rintro size sequential concurrent h
    cases n <;> cases h
    rfl

theorem countP_warn (ns : List Notice) :
    ns.countP (fun n => n.level == .warn) = (ns.filterMap strayTag?).length +
      (ns.filterMap abandoned?).length + (ns.filterMap dropped?).length := by
  induction ns with
  | nil => rfl
  | cons n rest ih =>
    have hone : [n].countP (fun n => n.level == .warn) = ([n].filterMap strayTag?).length +
        ([n].filterMap abandoned?).length + ([n].filterMap dropped?).length := by
      cases n <;> rfl
    rw [← List.singleton_append, List.countP_append, List.filterMap_append, List.filterMap_append,
      List.filterMap_append]
    simp only [List.length_append]
    omega

end Notice

/-! ## One line -/

theorem Catalog.finishes_put {c : Catalog} {key : Text} (h : key ∉ c.names) (s : Statement) :
    (c.put key s).finishes = c.finishes ++ [(key, c.size, s.kind)] := by
  unfold finishes
  rw [put_of_not_mem h, List.zipIdx_append, List.map_append]
  simp [size]

namespace Assembly

namespace Accounts

theorem refl (a : Assembly) : Accounts a a 0 0 [] :=
  ⟨rfl, (List.append_nil _).symm, rfl, rfl, rfl⟩

theorem trans {a b c : Assembly} {m n j k : Nat} {xs ys : List Notice}
    (hab : Accounts a b m j xs) (hbc : Accounts b c n k ys) :
    Accounts a c (m + n) (j + k) (xs ++ ys) where
  opened := by
    have hfirst := hab.opened
    have hsecond := hbc.opened
    simp only [List.filterMap_append, List.length_append]
    omega
  finished := by rw [hbc.finished, hab.finished, List.filterMap_append, List.append_assoc]
  strayed := by rw [List.filterMap_append, List.length_append, hab.strayed, hbc.strayed]
  dropped := by rw [List.filterMap_append, hab.dropped, hbc.dropped, List.append_nil]
  ended := by rw [List.filterMap_append, hab.ended, hbc.ended, List.append_nil]

theorem quiet {a b : Assembly} (l : Line) (hdone : b.done = a.done)
    (hopen : b.draft.isSome = a.draft.isSome) : Accounts a b 0 0 [.classified l] where
  opened := by
    rw [hopen]
    rfl
  finished := by
    rw [hdone]
    exact (List.append_nil _).symm
  strayed := rfl
  dropped := rfl
  ended := rfl

end Accounts

/-- A line of each class leaves the account in balance. -/
theorem accounts_line {a : Assembly} (ha : a.Orderly) (raw : Text) :
    Accounts a (a.tryTake raw) (a.opens raw).toNat (a.strays raw).toNat (a.noticesOf raw) := by
  obtain ⟨c, o⟩ := a
  unfold tryTake opens strays noticesOf
  rw [feed_eq]
  unfold take
  cases Line.classify raw with
  | blank | control | comment => exact .quiet _ rfl rfl
  | fragment code => cases o <;> exact .quiet _ rfl rfl
  | name value =>
    cases htaken : c.contains (Text.lower value) with
    | true =>
      rw [step_taken htaken]
      exact .quiet _ rfl rfl
    | false =>
      rw [step_free htaken]
      cases o with
      | none => exact ⟨rfl, (List.append_nil _).symm, rfl, rfl, rfl⟩
      -- Two statements have been open, and the first is told to be abandoned.
      | some d => exact ⟨rfl, (List.append_nil _).symm, rfl, rfl, rfl⟩
  | tag key value =>
    cases o with
    | none => exact ⟨rfl, (List.append_nil _).symm, rfl, rfl, rfl⟩
    | some d => exact .quiet _ rfl rfl
  | terminated code =>
    cases o with
    | none => exact .quiet _ rfl rfl
    | some d =>
      -- The name is new, so the statement is told with its place in the catalog.
      exact ⟨rfl, Catalog.finishes_put (ha.fresh d rfl) _, rfl, rfl, rfl⟩

/-- Each line is told once, before all else that is noticed of it. -/
theorem traced_line (a : Assembly) (raw : Text) :
    (a.noticesOf raw).filter (fun n => n.level == .trace) = [.classified (Line.classify raw)] := by
  obtain ⟨c, o⟩ := a
  unfold noticesOf
  cases Line.classify raw with
  | name value =>
    cases htaken : c.contains (Text.lower value) with
    | true =>
      rw [step_taken htaken]
      rfl
    | false =>
      rw [step_free htaken]
      cases o <;> rfl
  | _ => cases o <;> rfl

/-! ## All lines that are fed -/

theorem countP_cons_toNat {α : Type} (p : α → Bool) (x : α) (xs : List α) :
    (x :: xs).countP p = (p x).toNat + xs.countP p := by
  rw [List.countP_cons, Nat.add_comm]
  cases p x <;> rfl

section Feeding

variable {a b : Assembly} {raw : Text} {rest : List Text}

theorem feeds_cons_ok (h : a.take raw = .ok b) :
    a.feeds (raw :: rest) = (a, raw) :: b.feeds rest := by
  rw [feeds, h]

theorem feeds_cons_error {e : ParseError} (h : a.take raw = .error e) :
    a.feeds (raw :: rest) = [(a, raw)] := by
  rw [feeds, h]

theorem ending_cons_ok (h : a.take raw = .ok b) : a.ending (raw :: rest) = b.ending rest := by
  rw [ending, feeds_cons_ok h, List.map_cons, List.foldl_cons, tryTake, feed_ok h]
  rfl

theorem ending_cons_error {e : ParseError} (h : a.take raw = .error e) :
    a.ending (raw :: rest) = a := by
  rw [ending, feeds_cons_error h, List.map_singleton, List.foldl_cons, tryTake, feed_error h]
  rfl

end Feeding

/-- The lines that are fed leave the account in balance. -/
theorem accounts_feeds {a : Assembly} (ha : a.Orderly) (lines : List Text) :
    Accounts a (a.ending lines) ((a.feeds lines).countP fun f => f.1.opens f.2)
      ((a.feeds lines).countP fun f => f.1.strays f.2) (a.told lines) := by
  induction lines generalizing a with
  | nil => exact .refl a
  | cons raw rest ih =>
    have hline := accounts_line ha raw
    unfold told
    cases h : a.take raw with
    | ok b =>
      have hb : b.Orderly := ha.move (Line.sound_classify raw) (move_of_step h)
      rw [tryTake, feed_ok h] at hline
      rw [feeds_cons_ok h, ending_cons_ok h, countP_cons_toNat, countP_cons_toNat,
        List.flatMap_cons]
      exact hline.trans (ih hb)
    | error e =>
      rw [tryTake, feed_error h] at hline
      rw [feeds_cons_error h, ending_cons_error h, countP_cons_toNat, countP_cons_toNat,
        List.flatMap_cons]
      exact hline.trans (.refl a)

/-- Each line that is fed meets the assembly that the lines before it lead to. -/
theorem getElem?_feeds {a : Assembly} {lines : List Text} {k : Nat} {f : Assembly × Text}
    (h : (a.feeds lines)[k]? = some f) :
    lines[k]? = some f.2 ∧ f.1 = (lines.take k).foldl tryTake a := by
  induction lines generalizing a k with
  | nil => simp [feeds] at h
  | cons raw rest ih =>
    cases htake : a.take raw with
    | ok b =>
      rw [feeds_cons_ok htake] at h
      cases k with
      | zero =>
        obtain rfl := Option.some.inj h
        exact ⟨rfl, rfl⟩
      | succ k =>
        obtain ⟨hraw, hmet⟩ := ih h
        refine ⟨hraw, ?_⟩
        rw [List.take_succ_cons, List.foldl_cons, tryTake, feed_ok htake]
        exact hmet
    | error e =>
      rw [feeds_cons_error htake] at h
      cases k with
      | zero =>
        obtain rfl := Option.some.inj h
        exact ⟨rfl, rfl⟩
      | succ k => simp at h

/-- Where no line is refused, all lines are fed, and then the end is told. -/
theorem feeds_of_ok {a b : Assembly} {lines : List Text} (h : a.takeAll lines = .ok b) :
    (a.feeds lines).map (·.2) = lines ∧ a.log lines = a.told lines ++ b.closing := by
  induction lines generalizing a with
  | nil =>
    obtain rfl := Except.ok.inj h
    exact ⟨rfl, rfl⟩
  | cons raw rest ih =>
    cases htake : a.take raw with
    | ok next =>
      obtain ⟨hfed, hlog⟩ := ih (takeAll_cons_ok htake rest ▸ h)
      rw [told, log, htake, feeds_cons_ok htake, List.map_cons, hfed, List.flatMap_cons,
        List.append_assoc]
      exact ⟨rfl, congrArg _ hlog⟩
    | error e =>
      rw [takeAll, List.foldlM_cons, htake] at h
      cases h

/-- Where a line is refused, it is the last that is fed, and nothing else is told. -/
theorem feeds_of_error {a : Assembly} {lines : List Text} {e : ParseError}
    (h : a.takeAll lines = .error e) :
    (∃ f, (a.feeds lines).getLast? = some f ∧ f.1.take f.2 = .error e) ∧
      a.log lines = a.told lines := by
  induction lines generalizing a with
  | nil => cases h
  | cons raw rest ih =>
    cases htake : a.take raw with
    | ok next =>
      obtain ⟨⟨f, hlast, hrefused⟩, hlog⟩ := ih (takeAll_cons_ok htake rest ▸ h)
      rw [told, log, htake, feeds_cons_ok htake, List.flatMap_cons]
      refine ⟨⟨f, ?_, hrefused⟩, congrArg _ hlog⟩
      rw [List.getLast?_cons, hlast]
      rfl
    | error e' =>
      rw [takeAll, List.foldlM_cons, htake] at h
      obtain rfl := Except.error.inj h
      rw [told, log, htake, feeds_cons_error htake]
      exact ⟨⟨(a, raw), rfl, htake⟩, by simp⟩

theorem traced_told (a : Assembly) (lines : List Text) :
    (a.told lines).filter (fun n => n.level == .trace) =
      (a.feeds lines).map fun f => .classified (Line.classify f.2) := by
  unfold told
  induction a.feeds lines with
  | nil => rfl
  | cons f rest ih =>
    rw [List.flatMap_cons, List.filter_append, ih, traced_line, List.map_cons]
    rfl

theorem ending_of_ok {a b : Assembly} {lines : List Text} (h : a.takeAll lines = .ok b) :
    a.ending lines = b := by
  rw [ending, (feeds_of_ok h).1, foldl_tryTake h]

end Assembly

/-! ## The end of the script -/

theorem Catalog.length_walk (c : Catalog) (o : Order) :
    (c.walk o).length = (c.places o).length := by
  rw [walk, Cursor.rest_eq, List.length_map]
  exact (c.length_places o).symm

namespace Assembly

theorem closing_eq (a : Assembly) :
    a.closing = (a.draft.map fun d => Notice.dropped d.name).toList ++
      [.ended a.done.size (a.done.walk .sequential).length (a.done.walk .concurrent).length] := by
  rw [Catalog.length_walk, Catalog.length_walk]
  rfl

/-- Behind what is told of the lines stands the end or nothing, and neither starts, finishes or
gives up a statement. -/
theorem exists_closing (a : Assembly) (lines : List Text) :
    ∃ ns, a.log lines = a.told lines ++ ns ∧ ns.filterMap Notice.finished? = [] ∧
      ns.filterMap Notice.abandoned? = [] ∧ ns.filterMap Notice.strayTag? = [] ∧
      ∀ n ∈ ns, n.level ≠ .trace := by
  cases h : a.takeAll lines with
  | error e => exact ⟨[], by simp [(feeds_of_error h).2], rfl, rfl, rfl, by simp⟩
  | ok b =>
    refine ⟨b.closing, (feeds_of_ok h).2, ?_⟩
    obtain ⟨c, _ | d⟩ := b
    · exact ⟨rfl, rfl, rfl, by simp [closing, Notice.level]⟩
    · exact ⟨rfl, rfl, rfl, by simp [closing, Notice.level]⟩

theorem accounts_start (lines : List Text) :
    Accounts start (start.ending lines) ((start.feeds lines).countP fun f => f.1.opens f.2)
      ((start.feeds lines).countP fun f => f.1.strays f.2) (start.told lines) :=
  accounts_feeds orderly_start lines

end Assembly

namespace Script

theorem takeAll_of_error {lines : List Text} {e : ParseError} (h : parseLines lines = .error e) :
    Assembly.start.takeAll lines = .error e := by
  unfold parseLines at h
  cases htake : Assembly.start.takeAll lines with
  | ok a =>
    rw [htake] at h
    cases h
  | error e' =>
    rw [htake] at h
    exact congrArg _ (Except.error.inj h)

theorem log_of_ok {lines : List Text} {c : Catalog} (h : parseLines lines = .ok c) :
    ∃ o, Assembly.start.ending lines = ⟨c, o⟩ ∧
      (Assembly.start.feeds lines).map (·.2) = lines ∧
      logLines lines = Assembly.start.told lines ++
        ((o.map fun d => Notice.dropped d.name).toList ++
          [.ended c.size (c.walk .sequential).length (c.walk .concurrent).length]) ∧
      (Assembly.start.told lines).filterMap Notice.finished? = c.finishes := by
  obtain ⟨o, htake⟩ := exists_takeAll h
  have hend := Assembly.ending_of_ok htake
  obtain ⟨hfed, hlog⟩ := Assembly.feeds_of_ok htake
  have hfinished := (Assembly.accounts_start lines).finished
  rw [Assembly.closing_eq] at hlog
  rw [hend] at hfinished
  exact ⟨o, hend, hfed, hlog, hfinished.symm⟩

end Script

/-! ## The laws -/

/-- Each line that is fed is told once, before all else that is noticed of it. Every name tag that
is taken leads to a statement that is finished, abandoned, or open at the end. On success the
open one is dropped, the finished ones are told as the catalog has them, and the last notice
counts them. If a name is refused, no end is told. What is lost is told in warnings, and each of
them names what is lost. -/
theorem no_statement_is_lost_without_a_notice (lines : List Text) :
    let log := Script.logLines lines
    let fed := Assembly.start.feeds lines
    let last := (fed.map (·.2)).foldl Assembly.tryTake Assembly.start
    (∀ k f, fed[k]? = some f →
      lines[k]? = some f.2 ∧ f.1 = (lines.take k).foldl Assembly.tryTake Assembly.start) ∧
    (∃ closing, log = (fed.flatMap fun f =>
        .classified (Line.classify f.2) :: (f.1.step (Line.classify f.2)).notices) ++ closing ∧
      ∀ n ∈ closing, n.level ≠ .trace) ∧
    log.filter (fun n => n.level == .trace) = fed.map (fun f => .classified (Line.classify f.2)) ∧
    fed.countP (fun f => f.1.opens f.2) =
      (log.filterMap Notice.finished?).length + (log.filterMap Notice.abandoned?).length +
        last.draft.isSome.toNat ∧
    (log.filterMap Notice.strayTag?).length = fed.countP (fun f => f.1.strays f.2) ∧
    (∀ n ∈ log, n.WellTold) ∧
    log.countP (fun n => n.level == .warn) = (log.filterMap Notice.strayTag?).length +
      (log.filterMap Notice.abandoned?).length + (log.filterMap Notice.dropped?).length ∧
    (∀ c, Script.parseLines lines = .ok c →
      fed.map (·.2) = lines ∧ last.catalog = c ∧
      log.filterMap Notice.dropped? = (last.draft.map (·.name)).toList ∧
      log.filterMap Notice.finished? = c.entries.zipIdx.map (fun (e, i) => (e.1, i, e.2.kind)) ∧
      log.filterMap Notice.ended? =
        [(c.size, (c.walk .sequential).length, (c.walk .concurrent).length)] ∧
      log.getLast? =
        some (.ended c.size (c.walk .sequential).length (c.walk .concurrent).length)) ∧
    ∀ e, Script.parseLines lines = .error e →
      (∃ f, fed.getLast? = some f ∧ f.1.take f.2 = .error e) ∧
      log.filterMap Notice.dropped? = [] ∧ log.filterMap Notice.ended? = [] := by
  intro log fed last
  have haccounts := Assembly.accounts_start lines
  obtain ⟨ns, hlog, hfinished, habandoned, hstray, htrace⟩ := Assembly.start.exists_closing lines
  have hlog : log = Assembly.start.told lines ++ ns := hlog
  refine ⟨fun k f => Assembly.getElem?_feeds, ⟨ns, hlog, htrace⟩, ?_, ?_, ?_,
    fun n _ => n.wellTold, Notice.countP_warn log, fun c hc => ?_, fun e he => ?_⟩
  · have hnone : ns.filter (fun n => n.level == .trace) = [] :=
      List.filter_eq_nil_iff.2 fun n hn => by simpa using htrace n hn
    rw [hlog, List.filter_append, Assembly.traced_told, hnone, List.append_nil]
  · rw [hlog, List.filterMap_append, List.filterMap_append, hfinished, habandoned, List.append_nil,
      List.append_nil]
    exact haccounts.opened
  · rw [hlog, List.filterMap_append, hstray, List.append_nil]
    exact haccounts.strayed
  · obtain ⟨o, hend, hfed, hlog, hfinished⟩ := Script.log_of_ok hc
    have hlog : log = _ := hlog
    have hlast : last = ⟨c, o⟩ := hend
    rw [hlog, hlast]
    simp only [List.filterMap_append, haccounts.dropped, haccounts.ended, hfinished]
    refine ⟨hfed, rfl, ?_, ?_, ?_, by simp⟩
    · cases o <;> rfl
    · cases o <;> exact List.append_nil _
    · cases o <;> rfl
  · obtain ⟨hrefused, hlog⟩ := Assembly.feeds_of_error (Script.takeAll_of_error he)
    have hlog : log = _ := hlog
    rw [hlog]
    exact ⟨hrefused, haccounts.dropped, haccounts.ended⟩

/-- A script with a tag outside of a statement, a statement that is abandoned, one that is
finished and one that is dropped, and a script that takes a name again while a statement is
open. -/
theorem an_abandoned_and_a_dropped_statement_are_told :
    let lines := ["--tag=key: x".toList, "-- tag=name: A".toList, "select 1".toList,
      "-- tag=name: B".toList, "select 2 from t;".toList, ['x', ';'], "-- tag=name: C".toList,
      "-- tag=key: y".toList]
    let log := Script.logLines lines
    let fed := Assembly.start.feeds lines
    let c := (lines.foldl Assembly.tryTake Assembly.start).catalog
    let taken := lines.take 7 ++ ["-- tag=name: b".toList, ['x', ';']]
    Script.parseLines lines = .ok c ∧ fed.map (·.2) = lines ∧
      fed.countP (fun f => f.1.opens f.2) = 3 ∧
      log.filterMap Notice.finished? = [(['b'], 0, .dql)] ∧
      log.filterMap Notice.abandoned? = [['a']] ∧ log.filterMap Notice.dropped? = [['c']] ∧
      (log.filterMap Notice.strayTag?).length = 1 ∧ log.getLast? = some (.ended 1 0 1) ∧
      log.countP (fun n => n.level == .warn) = 3 ∧
      (log.filter fun n => n.level == .warn).map Notice.message =
        ["ignoring tag \"key\" outside of a named statement".toList,
          "statement \"a\" abandoned before its terminator".toList,
          "dropping unterminated statement \"c\" at end of input".toList] ∧
      Script.parseLines taken = .error (.duplicateName ['b']) ∧
      (Assembly.start.feeds taken).countP (fun f => f.1.opens f.2) = 3 ∧
      (Script.logLines taken).filterMap Notice.dropped? = [] ∧
      (Script.logLines taken).filterMap Notice.ended? = [] := by
  intro lines log fed c taken
  have hparse : Script.parseLines lines = .ok c := by decide +kernel
  have hrefused : Script.parseLines taken = .error (.duplicateName ['b']) := by decide +kernel
  obtain ⟨-, -, -, hopened, hstray, -, hwarned, hok, -⟩ :=
    no_statement_is_lost_without_a_notice lines
  obtain ⟨hfed, -, hdropped, hfinished, -, hend⟩ := hok c hparse
  obtain ⟨-, -, -, hopened', -, -, -, -, herror⟩ := no_statement_is_lost_without_a_notice taken
  obtain ⟨-, hkept, hsilent⟩ := herror _ hrefused
  have habandoned : log.filterMap Notice.abandoned? = [['a']] := by decide +kernel
  exact ⟨hparse, hfed, hopened.trans (by decide +kernel), hfinished.trans (by decide +kernel),
    habandoned, hdropped.trans (by decide +kernel), hstray.trans (by decide +kernel),
    hend.trans (by decide +kernel), hwarned.trans (by decide +kernel), by decide +kernel, hrefused,
    hopened'.trans (by decide +kernel), hkept, hsilent⟩

end NamedSql
