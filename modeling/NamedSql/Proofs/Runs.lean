-- Runs of an assembly over many lines. Only the classes of the lines count, and
-- between two name tags there are three ways to go: nothing happens if no statement
-- is open, the open statement ends at the first terminator, or it takes all lines
-- and stays open.
import NamedSql.Script
import NamedSql.Segment

namespace NamedSql

/-! ## The pure model -/

/-- The line starts a statement. -/
def Line.isName : Line → Bool
  | .name _ => true
  | _ => false

/-- The draft after a line that starts no statement. -/
def Draft.addLine (d : Draft) : Line → Draft
  | .tag key value => d.addTag key value
  | .fragment code | .terminated code => d.addCode code
  | .blank | .control | .comment | .name _ => d

namespace Assembly

/-- Takes lines whose classes are known, until one is refused. -/
def steps (a : Assembly) (lines : List Line) : Except ParseError Assembly :=
  lines.foldlM (fun a l => (a.step l).next) a

@[simp] theorem steps_nil (a : Assembly) : a.steps [] = .ok a := rfl

theorem takeAll_eq_steps (a : Assembly) (lines : List Text) :
    a.takeAll lines = a.steps (lines.map Line.classify) := by
  unfold takeAll steps
  rw [List.foldlM_map]
  rfl

theorem takeAll_cons_ok {a b : Assembly} {raw : Text} (h : a.take raw = .ok b)
    (rest : List Text) : a.takeAll (raw :: rest) = b.takeAll rest := by
  unfold takeAll
  rw [List.foldlM_cons, h]
  rfl

theorem takeAll_concat {a b : Assembly} {lines : List Text} (h : a.takeAll lines = .ok b)
    (l : Text) : a.takeAll (lines ++ [l]) = b.take l := by
  unfold takeAll at h ⊢
  rw [List.foldlM_append, h]
  cases hb : b.take l <;> simp [bind, Except.bind, hb, pure, Except.pure]

theorem steps_cons_ok {a b : Assembly} {l : Line} (h : (a.step l).next = .ok b)
    (ls : List Line) : a.steps (l :: ls) = b.steps ls := by
  unfold steps
  rw [List.foldlM_cons, h]
  rfl

theorem steps_cons_error {a : Assembly} {l : Line} {e : ParseError}
    (h : (a.step l).next = .error e) (ls : List Line) : a.steps (l :: ls) = .error e := by
  unfold steps
  rw [List.foldlM_cons, h]
  rfl

theorem steps_append_ok {a b : Assembly} {xs : List Line} (h : a.steps xs = .ok b)
    (ys : List Line) : a.steps (xs ++ ys) = b.steps ys := by
  unfold steps at h ⊢
  rw [List.foldlM_append, h]
  rfl

theorem steps_append_error {a : Assembly} {xs : List Line} {e : ParseError}
    (h : a.steps xs = .error e) (ys : List Line) : a.steps (xs ++ ys) = .error e := by
  unfold steps at h ⊢
  rw [List.foldlM_append, h]
  rfl

/-- A blank, control or comment line changes nothing. -/
theorem step_ignorable (a : Assembly) {l : Line} (h : l.isIgnorable = true) :
    (a.step l).next = .ok a := by
  cases l with
  | blank | control | comment => rfl
  | _ => simp [Line.isIgnorable] at h

theorem steps_ignorable (a : Assembly) {ls : List Line} (h : ∀ l ∈ ls, l.isIgnorable = true) :
    a.steps ls = .ok a := by
  induction ls with
  | nil => rfl
  | cons l ls ih =>
    rw [steps_cons_ok (step_ignorable a (h l List.mem_cons_self))]
    exact ih fun x hx => h x (List.mem_cons_of_mem _ hx)

/-! ## A name tag -/

theorem step_taken {a : Assembly} {value : Text} (h : a.done.contains (Text.lower value) = true) :
    a.step (.name value) = ⟨.error (.duplicateName (Text.lower value)), []⟩ := if_pos h

theorem step_free {a : Assembly} {value : Text} (h : a.done.contains (Text.lower value) = false) :
    a.step (.name value) = ⟨.ok ⟨a.done, some (Draft.start value)⟩,
      (a.draft.map fun d => Notice.abandoned d.name).toList⟩ := if_neg (Bool.eq_false_iff.1 h)

theorem begin_taken {a : Assembly} {value : Text}
    (h : a.done.contains (Text.lower value) = true) :
    (a.step (.name value)).next = .error (.duplicateName (Text.lower value)) := by
  rw [step_taken h]

theorem begin_free {a : Assembly} {value : Text}
    (h : a.done.contains (Text.lower value) = false) :
    (a.step (.name value)).next = .ok ⟨a.done, some (Draft.start value)⟩ := by
  rw [step_free h]

/-! ## Between two name tags -/

theorem step_outside (c : Catalog) {l : Line} (h : l.isName = false) :
    (step ⟨c, none⟩ l).next = .ok ⟨c, none⟩ := by
  cases l with
  | name value => simp [Line.isName] at h
  | _ => rfl

theorem step_open (c : Catalog) (d : Draft) {l : Line} (h : l.isName = false)
    (hopen : Segment.isTerminator l = false) :
    (step ⟨c, some d⟩ l).next = .ok ⟨c, some (d.addLine l)⟩ := by
  cases l with
  | name value => simp [Line.isName] at h
  | terminated code => simp [Segment.isTerminator] at hopen
  | _ => rfl

/-- Only a name tag can be refused. -/
theorem step_not_refused (a : Assembly) {l : Line} (h : l.isName = false) :
    ∃ b, (a.step l).next = .ok b := by
  obtain ⟨c, _ | d⟩ := a
  · exact ⟨_, step_outside c h⟩
  · cases l with
    | terminated code => exact ⟨_, rfl⟩
    | _ => exact ⟨_, step_open c d h rfl⟩

/-- Where no statement is open, only a name tag does anything. -/
theorem steps_outside (c : Catalog) {body : List Line} (h : ∀ l ∈ body, l.isName = false) :
    steps ⟨c, none⟩ body = .ok ⟨c, none⟩ := by
  induction body with
  | nil => rfl
  | cons l ls ih =>
    rw [steps_cons_ok (step_outside c (h l List.mem_cons_self))]
    exact ih fun x hx => h x (List.mem_cons_of_mem _ hx)

/-- Without a terminator the open statement takes all lines. -/
theorem steps_open (c : Catalog) (d : Draft) {body : List Line}
    (h : ∀ l ∈ body, l.isName = false) (hopen : ∀ l ∈ body, Segment.isTerminator l = false) :
    steps ⟨c, some d⟩ body = .ok ⟨c, some (body.foldl Draft.addLine d)⟩ := by
  induction body generalizing d with
  | nil => rfl
  | cons l ls ih =>
    rw [steps_cons_ok (step_open c d (h l List.mem_cons_self) (hopen l List.mem_cons_self)),
      List.foldl_cons]
    exact ih _ (fun x hx => h x (List.mem_cons_of_mem _ hx))
      fun x hx => hopen x (List.mem_cons_of_mem _ hx)

/-- At the first terminator the open statement is finished. What comes behind
it adds nothing. -/
theorem steps_closed (c : Catalog) (d : Draft) {before after : List Line} (code : Text)
    (h : ∀ l ∈ before, l.isName = false) (hopen : ∀ l ∈ before, Segment.isTerminator l = false)
    (hafter : ∀ l ∈ after, l.isName = false) :
    let d' := (before ++ [Line.terminated code]).foldl Draft.addLine d
    steps ⟨c, some d⟩ (before ++ Line.terminated code :: after) =
      .ok ⟨c.put d'.name (d'.statement c.size), none⟩ := by
  have hclose : (step ⟨c, some (before.foldl Draft.addLine d)⟩ (.terminated code)).next =
      .ok ⟨c.put _ _, none⟩ := rfl
  rw [steps_append_ok (steps_open c d h hopen), steps_cons_ok hclose, steps_outside _ hafter,
    List.foldl_append]
  rfl

end Assembly

/-! ## A whole script -/

/-- A script is read if all its lines are taken, and its statements are those that are finished. -/
theorem Script.exists_takeAll {lines : List Text} {c : Catalog} (h : parseLines lines = .ok c) :
    ∃ o, Assembly.start.takeAll lines = .ok ⟨c, o⟩ := by
  unfold parseLines at h
  cases htake : Assembly.start.takeAll lines with
  | error e =>
    rw [htake] at h
    cases h
  | ok a =>
    rw [htake] at h
    obtain rfl := Except.ok.inj h
    exact ⟨a.draft, rfl⟩

/-! ## What a draft gathers -/

namespace Draft

theorem name_foldl (ls : List Line) (d : Draft) : (ls.foldl addLine d).name = d.name := by
  induction ls generalizing d with
  | nil => rfl
  | cons l ls ih =>
    rw [List.foldl_cons, ih]
    cases l <;> rfl

theorem tags_foldl (ls : List Line) (d : Draft) :
    (ls.foldl addLine d).tags = ls.foldl Segment.addTag d.tags := by
  induction ls generalizing d with
  | nil => rfl
  | cons l ls ih =>
    rw [List.foldl_cons, List.foldl_cons, ih]
    cases l <;> rfl

/-- Code that is joined to other codes stands behind them, after one space. -/
theorem join_intercalate {codes : List Text} {code : Text} (h : ∀ c ∈ codes, c ≠ [])
    (hcode : code ≠ []) :
    join (List.intercalate [' '] codes) code = List.intercalate [' '] (codes ++ [code]) := by
  rw [Text.intercalate_concat]
  rcases List.eq_nil_or_concat codes with rfl | ⟨init, last, rfl⟩
  · simp [join, hcode, List.intercalate, Text.joinEnded]
  · have hlast : last ≠ [] := h last (by simp)
    rw [List.concat_eq_append, Text.intercalate_concat]
    simp [join, hcode, hlast, Text.joinEnded]

theorem codeOf?_ne_nil {l : Line} {code : Text} (h : Segment.codeOf? l = some code) :
    code ≠ [] := by
  cases l with
  | fragment c | terminated c =>
    simp only [Segment.codeOf?] at h
    split at h
    · simp at h
    · rename_i hne
      simpa [← Option.some.inj h] using hne
  | _ => simp [Segment.codeOf?] at h

/-- A line adds its code, if it has any. -/
theorem text_addLine (d : Draft) (l : Line) :
    (d.addLine l).text = ((Segment.codeOf? l).map (join d.text)).getD d.text := by
  cases l with
  | fragment code | terminated code =>
    by_cases hcode : code = []
    · simp [addLine, addCode, Segment.codeOf?, join, hcode]
    · simp [addLine, addCode, Segment.codeOf?, hcode]
  | _ => rfl

theorem text_foldl (codes : List Text) (ls : List Line) (d : Draft) (h : ∀ c ∈ codes, c ≠ [])
    (hd : d.text = List.intercalate [' '] codes) :
    (ls.foldl addLine d).text =
      List.intercalate [' '] (codes ++ ls.filterMap Segment.codeOf?) := by
  induction ls generalizing d codes with
  | nil => simpa using hd
  | cons l ls ih =>
    have hadd := text_addLine d l
    rw [List.foldl_cons]
    cases hl : Segment.codeOf? l with
    | none =>
      rw [hl] at hadd
      rw [ih _ _ h (hadd.trans hd), List.filterMap_cons_none hl]
    | some code =>
      have hcode := codeOf?_ne_nil hl
      have hall : ∀ c ∈ codes ++ [code], c ≠ [] := by
        intro c hc
        rcases List.mem_append.1 hc with hc | hc
        · exact h c hc
        · rwa [List.mem_singleton.1 hc]
      have hjoin : (d.addLine l).text = List.intercalate [' '] (codes ++ [code]) := by
        rw [hadd, hl, ← join_intercalate h hcode, ← hd]
        rfl
      rw [ih _ _ hall hjoin, List.filterMap_cons_some hl, List.append_assoc, List.singleton_append]

end Draft

end NamedSql
