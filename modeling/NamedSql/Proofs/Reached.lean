-- The assemblies that lines lead to. Whatever lines have been fed, and whether or not
-- some of them were refused, the names of the finished statements differ, each is the
-- name tag in lower case, and none of them is the name of the statement that is open.
-- So a statement that is finished never takes the place of another.
import Mathlib.Data.List.Nodup
import NamedSql.Proofs.Runs
import NamedSql.Proofs.SoundStatements

namespace NamedSql

/-! ## The pure model -/

/-- A small letter or a digit of ASCII, an underscore or a hyphen. -/
def Tag.isLowKeyChar (c : Char) : Bool := c.isLower || c.isDigit || c == '_' || c == '-'

/-- The tags give the name, and all their keys are keys in lower case. -/
structure Tags.Names (tags : Tags) (name : Text) : Prop where
  named : ∃ value, tags.get? Line.nameKey = some value ∧ Text.lower value = name
  keys : ∀ e ∈ tags.entries, e.1 ≠ [] ∧ ∀ c ∈ e.1, Tag.isLowKeyChar c = true

/-- The names differ, the ordinals count the statements, and every statement has its name and
a trimmed text. -/
structure Catalog.Orderly (c : Catalog) : Prop where
  nodup : c.names.Nodup
  ordinals : c.statements.map (·.ordinal) = List.range c.size
  names : ∀ e ∈ c.entries, e.2.tags.Names e.1
  texts : ∀ e ∈ c.entries, Text.Trimmed e.2.text

structure Draft.Orderly (d : Draft) : Prop where
  names : d.tags.Names d.name
  text : Text.Trimmed d.text

namespace Assembly

/-- What is finished and what is open is in order, and the name of the open statement is
new. -/
structure Orderly (a : Assembly) : Prop where
  done : a.done.Orderly
  draft : ∀ d, a.draft = some d → d.Orderly
  fresh : ∀ d, a.draft = some d → d.name ∉ a.done.names

/-- All that a line can do that is not refused. -/
inductive Move : Assembly → Line → Assembly → Prop where
  | outside {c : Catalog} {l : Line} : l.isName = false → Move ⟨c, none⟩ l ⟨c, none⟩
  | opens {c : Catalog} {o : Option Draft} {value : Text} :
      c.contains (Text.lower value) = false →
      Move ⟨c, o⟩ (.name value) ⟨c, some (Draft.start value)⟩
  | adds {c : Catalog} {d : Draft} {l : Line} :
      l.isName = false → Segment.isTerminator l = false →
      Move ⟨c, some d⟩ l ⟨c, some (d.addLine l)⟩
  | closes {c : Catalog} {d : Draft} {code : Text} :
      Move ⟨c, some d⟩ (.terminated code)
        ⟨c.put d.name ((d.addCode code).statement c.size), none⟩

end Assembly

/-! ## Keys and names -/

namespace Tag

theorem isLowKeyChar_of_toLower {c : Char} (h : isKeyChar c = true) (hlow : c.toLower = c) :
    isLowKeyChar c = true := by
  have hupper : c.isUpper = false := by
    rw [← hlow]
    exact Char.isUpper_toLower_eq_false c
  have halnum : c.isAlphanum = (c.isAlpha || c.isDigit) := rfl
  unfold isKeyChar at h
  unfold isLowKeyChar
  rwa [halnum, Char.isAlpha, hupper, Bool.false_or] at h

theorem Sound.isLowKeyChar {t : Tag} (h : t.Sound) : ∀ c ∈ t.key, Tag.isLowKeyChar c = true := by
  intro c hc
  have hlower : t.key.map Char.toLower = t.key.map id := h.lower.trans (List.map_id _).symm
  exact isLowKeyChar_of_toLower (h.key c hc) (List.map_inj_left.1 hlower c hc)

end Tag

namespace Tags.Names

theorem single (value : Text) : (Tags.single Line.nameKey value).Names (Text.lower value) where
  named := ⟨value, by rw [Tags.single, Tags.get?_insert, if_pos rfl], rfl⟩
  keys := by
    intro e he
    rcases Tags.mem_insertEntry he with rfl | he
    · have hkey : Line.nameKey.all Tag.isLowKeyChar = true := by decide
      exact ⟨List.cons_ne_nil _ _, List.all_eq_true.1 hkey⟩
    · exact absurd he List.not_mem_nil

/-- Another tag leaves the name as it is. -/
theorem insert {tags : Tags} {name key value : Text} (h : tags.Names name)
    (hl : (Line.tag key value).Sound) : (tags.insert key value).Names name where
  named := by
    rw [Tags.get?_insert, if_neg hl.1]
    exact h.named
  keys := by
    intro e he
    rcases Tags.mem_insertEntry he with rfl | he
    · exact ⟨hl.2.key_ne, hl.2.isLowKeyChar⟩
    · exact h.keys e he

end Tags.Names

/-! ## One draft -/

namespace Draft

theorem trimmed_join {text code : Text} (htext : Text.Trimmed text) (hcode : Text.Trimmed code) :
    Text.Trimmed (join text code) := by
  unfold join
  split
  · exact htext
  · rename_i hcodene
    split
    · exact hcode
    · rename_i htextne
      exact htext.append_cons hcode (by simpa using htextne) (by simpa using hcodene)

theorem trimmed_keptText (kind : Kind) {t : Text} (h : Text.Trimmed t) :
    Text.Trimmed (keptText kind t) := by
  unfold keptText
  split
  · exact h
  · exact Colons.trimmed_escape h

theorem name_addLine (d : Draft) (l : Line) : (d.addLine l).name = d.name := by
  cases l <;> rfl

theorem orderly_start (value : Text) : (start value).Orderly :=
  ⟨Tags.Names.single value, Text.trimmed_nil⟩

theorem Orderly.addLine {d : Draft} (h : d.Orderly) {l : Line} (hl : l.Sound) :
    (d.addLine l).Orderly := by
  cases l with
  | tag key value => exact ⟨h.names.insert hl, h.text⟩
  | fragment code | terminated code => exact ⟨h.names, trimmed_join h.text hl.1⟩
  | _ => exact ⟨h.names, h.text⟩

end Draft

/-! ## One more statement -/

namespace Catalog

theorem orderly_empty : empty.Orderly where
  nodup := List.nodup_nil
  ordinals := rfl
  names := fun _ he => absurd he List.not_mem_nil
  texts := fun _ he => absurd he List.not_mem_nil

/-- A statement with a new name comes behind the others. -/
theorem Orderly.put {c : Catalog} (hc : c.Orderly) {d : Draft} (hd : d.Orderly)
    (hfresh : d.name ∉ c.names) : (c.put d.name (d.statement c.size)).Orderly := by
  have hput : c.put d.name (d.statement c.size) =
      ⟨c.entries ++ [(d.name, d.statement c.size)]⟩ :=
    congrArg Catalog.mk (put_of_not_mem hfresh _)
  rw [hput]
  constructor
  · simp only [Catalog.names, List.map_append, List.map_singleton]
    rw [← List.concat_eq_append]
    exact List.Nodup.concat hfresh hc.nodup
  · have hordinals := hc.ordinals
    simp only [statements, size, List.map_append, List.length_append] at hordinals ⊢
    rw [hordinals]
    exact List.range_succ.symm
  · intro e he
    rcases List.mem_append.1 he with he | he
    · exact hc.names e he
    · rw [List.mem_singleton.1 he]
      exact hd.names
  · intro e he
    rcases List.mem_append.1 he with he | he
    · exact hc.texts e he
    · rw [List.mem_singleton.1 he]
      exact Draft.trimmed_keptText _ hd.text

end Catalog

/-! ## One line -/

namespace Assembly

theorem move_of_step {a b : Assembly} {l : Line} (h : (a.step l).next = .ok b) : Move a l b := by
  obtain ⟨c, o⟩ := a
  by_cases hname : l.isName = true
  · cases l with
    | name value =>
      cases htaken : c.contains (Text.lower value) with
      | true =>
        rw [begin_taken htaken] at h
        cases h
      | false =>
        rw [begin_free htaken] at h
        cases h
        exact .opens htaken
    | _ => simp [Line.isName] at hname
  · have hname := Bool.eq_false_iff.2 hname
    cases o with
    | none =>
      rw [step_outside c hname] at h
      cases h
      exact .outside hname
    | some d =>
      cases l with
      | terminated code =>
        cases h
        exact .closes
      | _ =>
        rw [step_open c d hname rfl] at h
        cases h
        exact .adds hname rfl

theorem orderly_start : start.Orderly :=
  ⟨Catalog.orderly_empty, by simp [start], by simp [start]⟩

theorem Orderly.move {a b : Assembly} {l : Line} (ha : a.Orderly) (hl : l.Sound)
    (h : Move a l b) : b.Orderly := by
  cases h with
  | outside _ => exact ha
  | @opens c o value hfree =>
    -- The name is looked up here only. It stays new, since nothing else is finished before
    -- this statement is closed or given up.
    have hfresh : Text.lower value ∉ c.names := by
      rw [← Catalog.contains_iff, hfree]
      exact Bool.false_ne_true
    refine ⟨ha.done, fun d hd => ?_, fun d hd => ?_⟩
    all_goals obtain rfl := Option.some.inj hd
    · exact Draft.orderly_start value
    · exact hfresh
  | @adds c d l _ _ =>
    refine ⟨ha.done, fun d' hd => ?_, fun d' hd => ?_⟩
    all_goals obtain rfl := Option.some.inj hd
    · exact (ha.draft d rfl).addLine hl
    · rw [Draft.name_addLine]
      exact ha.fresh d rfl
  | @closes c d code =>
    exact ⟨ha.done.put ((ha.draft d rfl).addLine hl) (ha.fresh d rfl), by simp, by simp⟩

theorem feed_eq (a : Assembly) (raw : Text) :
    a.feed raw =
      match a.take raw with
      | .ok b => (.ok (), b)
      | .error e => (.error e, a) := Change.run_ofLine a (Line.classify raw)

/-- A line that is taken moves the assembly, and one that is refused leaves it. -/
theorem tryTake_cases (a : Assembly) (raw : Text) :
    a.tryTake raw = a ∨ Move a (Line.classify raw) (a.tryTake raw) := by
  unfold tryTake
  rw [feed_eq]
  cases h : a.take raw with
  | ok b => exact Or.inr (move_of_step h)
  | error e => exact Or.inl rfl

/-- An orderly assembly stays orderly, whatever lines it is fed. -/
theorem Orderly.foldl {a : Assembly} (ha : a.Orderly) (lines : List Text) :
    (lines.foldl tryTake a).Orderly := by
  induction lines generalizing a with
  | nil => exact ha
  | cons raw rest ih =>
    rw [List.foldl_cons]
    apply ih
    rcases tryTake_cases a raw with h | h
    · rwa [h]
    · exact ha.move (Line.sound_classify raw) h

/-- A terminator finishes the open statement. -/
theorem Orderly.feed_terminated {a : Assembly} (ha : a.Orderly) {raw code : Text} {d : Draft}
    (hraw : Line.classify raw = .terminated code) (hd : a.draft = some d) :
    a.feed raw =
      (.ok (), ⟨⟨a.done.entries ++ [(d.name, (d.addCode code).statement a.done.size)]⟩, none⟩) := by
  obtain ⟨c, o⟩ := a
  obtain rfl : o = some d := hd
  have hput := Catalog.put_of_not_mem (ha.fresh d rfl) ((d.addCode code).statement c.size)
  rw [feed, hraw, ← hput]
  rfl

end Assembly

/-! ## The laws -/

/-- Whatever lines have been fed, the assembly is orderly. The terminator of an open
statement finds a trimmed text, and it puts the statement behind all others and in the place of
none. -/
theorem every_assembly_that_is_reached_is_orderly (lines : List Text) :
    let a := lines.foldl Assembly.tryTake Assembly.start
    a.Orderly ∧
      ∀ raw code d, Line.classify raw = .terminated code → a.draft = some d →
        Text.Trimmed (d.addCode code).text ∧
        a.feed raw = (.ok (),
          ⟨⟨a.done.entries ++ [(d.name, (d.addCode code).statement a.done.size)]⟩, none⟩) := by
  intro a
  have ha : a.Orderly := Assembly.orderly_start.foldl lines
  refine ⟨ha, fun raw code d hraw hd => ⟨?_, ha.feed_terminated hraw hd⟩⟩
  have hsound := Line.sound_classify raw
  rw [hraw] at hsound
  exact ((ha.draft d hd).addLine hsound).text

/-- A statement that is open behind a finished one and behind a name that was refused. Its
terminator puts it behind the finished one. -/
theorem an_open_statement_ends_behind_the_finished_one :
    let lines := ["-- tag=name: A".toList, "select 1;".toList, "-- tag=name: B".toList,
      "--TAG = Name : a".toList, "-- tag=Key-1: x".toList, "update t".toList]
    let last := " set x = :y ; -- z".toList
    let a := lines.foldl Assembly.tryTake Assembly.start
    let d : Draft := ⟨['b'], (Tags.single Line.nameKey ['B']).insert "key-1".toList ['x'],
      "update t".toList⟩
    a.Orderly ∧ a.done.names = [['a']] ∧ a.draft = some d ∧
      Line.classify last = .terminated "set x = :y".toList ∧
      Text.Trimmed (d.addCode "set x = :y".toList).text ∧
      a.feed last = (.ok (),
        ⟨⟨a.done.entries ++ [(['b'], (d.addCode "set x = :y".toList).statement 1)]⟩, none⟩) := by
  intro lines last a d
  have hnames : a.done.names = [['a']] := by decide +kernel
  have hd : a.draft = some d := by decide +kernel
  have hlast : Line.classify last = .terminated "set x = :y".toList := by decide +kernel
  obtain ⟨ha, hclose⟩ := every_assembly_that_is_reached_is_orderly lines
  obtain ⟨htrimmed, hfeed⟩ := hclose last _ d hlast hd
  have hsize : a.done.size = 1 := by decide +kernel
  refine ⟨ha, hnames, hd, hlast, htrimmed, ?_⟩
  rw [← hsize]
  exact hfeed

end NamedSql
