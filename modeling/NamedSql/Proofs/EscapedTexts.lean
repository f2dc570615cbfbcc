-- Texts that have been escaped. Escaping such a text again changes nothing, and it meets a
-- bind variable if the first escaping met one. However a script is handed over, a statement
-- that is finished keeps a text that has been escaped, unless it changes tables.
import NamedSql.Check
import NamedSql.Proofs.Reads
import NamedSql.Proofs.Refusals
import NamedSql.Proofs.SoundStatements

namespace NamedSql

/-! ## The pure model -/

/-- A script that is handed over in one of the ways there are has this catalog. -/
inductive Catalog.OfScript : Catalog → Prop where
  | text {script : Text} {c : Catalog} : Script.parse script = .ok c → OfScript c
  | lines {lines : List Text} {c : Catalog} : Script.parseLines lines = .ok c → OfScript c
  | reads {reads : List Read} {c : Catalog} : Script.parseReads reads = .ok c → OfScript c
  | source {source : Source} {c : Catalog} : Script.parseSource source = .ok c → OfScript c
  /-- Lines are fed one by one, and those that are refused are passed over. -/
  | fed (lines : List Text) : OfScript (lines.foldl Assembly.tryTake Assembly.start).catalog

/-- No text would change if it were kept once more. -/
def Catalog.Settled (c : Catalog) : Prop :=
  ∀ s ∈ c.statements, Draft.keptText s.kind s.text = s.text

/-! ## One text -/

namespace Colons

/-- A text without a colon or without an equals sign is not escaped. -/
theorem escape_of_missing {t : Text} (h : (t.contains ':' && t.contains '=') = false) :
    escape t = t := by
  have hmissing : (!t.contains ':' || !t.contains '=') = true := by
    rw [← Bool.not_and, h]
    rfl
  rw [escape, escaped?, if_pos hmissing]
  rfl

theorem isStable_eq_true (t : Text) : isStable t = true := by
  rw [isStable, escape_escape, beq_self_eq_true, Bool.true_and, Bool.or_eq_true]
  by_cases h : (t.contains ':' && t.contains '=') = true
  · exact Or.inl h
  · rw [escape_of_missing (Bool.eq_false_iff.2 h)]
    exact Or.inr (beq_self_eq_true t)

theorem isSome_escaped? (t : Text) : (escaped? t).isSome = binds t := by
  rw [escaped?_eq]
  cases binds t <;> rfl

end Colons

/-! ## One more statement -/

namespace Catalog

theorem mem_put {c : Catalog} {key : Text} {s t : Statement}
    (h : t ∈ (c.put key s).statements) : t = s ∨ t ∈ c.statements := by
  obtain ⟨es⟩ := c
  simp only [put, statements] at h ⊢
  induction es with
  | nil => exact Or.inl (List.mem_singleton.1 h)
  | cons e es ih =>
    rw [putEntry] at h
    split at h
    · rcases List.mem_cons.1 h with h | h
      · exact Or.inl h
      · exact Or.inr (List.mem_cons_of_mem _ h)
    · rcases List.mem_cons.1 h with h | h
      · exact Or.inr (h ▸ List.mem_cons_self)
      · exact (ih h).imp_right (List.mem_cons_of_mem _)

theorem Settled.put {c : Catalog} (hc : c.Settled) (d : Draft) (key : Text) (ordinal : Nat) :
    (c.put key (d.statement ordinal)).Settled := by
  intro t ht
  rcases mem_put ht with rfl | ht
  · exact Draft.keptText_keptText _ _
  · exact hc t ht

end Catalog

/-! ## One line, and all lines -/

namespace Assembly

theorem Move.settled {a b : Assembly} {l : Line} (h : Move a l b) (ha : a.done.Settled) :
    b.done.Settled := by
  cases h with
  | outside _ | opens _ | adds _ _ => exact ha
  | @closes c d code => exact ha.put (d.addCode code) d.name c.size

end Assembly

namespace Script

/-- Lines that are all taken leave settled what was settled before. -/
theorem settled_takeAll {a b : Assembly} {lines : List Text} (ha : a.done.Settled)
    (h : a.takeAll lines = .ok b) : b.done.Settled := by
  induction lines generalizing a with
  | nil =>
    cases h
    exact ha
  | cons raw rest ih =>
    rw [Assembly.takeAll, List.foldlM_cons] at h
    cases hnext : a.take raw with
    | error e =>
      rw [hnext] at h
      cases h
    | ok next =>
      rw [hnext] at h
      exact ih ((Assembly.move_of_step hnext).settled ha) h

theorem settled_parseLines {lines : List Text} {c : Catalog} (h : parseLines lines = .ok c) :
    c.Settled := by
  obtain ⟨o, htake⟩ := exists_takeAll h
  exact settled_takeAll (fun _ hs => absurd hs List.not_mem_nil) htake

/-! ## The lines of a script -/

/-- Where no line is refused, all lines have been readable. -/
theorem exists_texts_of_foldlM {a b : Assembly} {lines : List (Except ReadFailure Text)}
    (h : lines.foldlM takeRead a = .ok b) : ∃ texts : List Text, lines = texts.map Except.ok := by
  induction lines generalizing a with
  | nil => exact ⟨[], rfl⟩
  | cons line rest ih =>
    rw [List.foldlM_cons] at h
    cases line with
    | error why => cases h
    | ok raw =>
      cases hnext : a.take raw with
      | error e =>
        rw [takeRead, hnext] at h
        cases h
      | ok next =>
        rw [takeRead, hnext] at h
        obtain ⟨texts, rfl⟩ := ih h
        exact ⟨raw :: texts, rfl⟩

theorem exists_lines_of_parseReads {reads : List Read} {c : Catalog}
    (h : parseReads reads = .ok c) : ∃ lines, parseLines lines = .ok c := by
  unfold parseReads at h
  cases hrun : (Read.lines reads).foldlM takeRead Assembly.start with
  | error e =>
    rw [hrun] at h
    cases h
  | ok a =>
    obtain ⟨texts, htexts⟩ := exists_texts_of_foldlM hrun
    refine ⟨texts, ?_⟩
    rwa [htexts, foldlM_takeRead_ok] at h

end Script

namespace Catalog.OfScript

/-- However a script is handed over, its catalog is that of some lines. -/
theorem exists_lines {c : Catalog} (h : c.OfScript) :
    ∃ lines, Script.parseLines lines = .ok c := by
  cases h with
  | text h | lines h => exact ⟨_, h⟩
  | reads h => exact Script.exists_lines_of_parseReads h
  | @source source c h =>
    unfold Script.parseSource at h
    split at h
    · exact Script.exists_lines_of_parseReads h
    · cases h
  | fed lines =>
    refine ⟨Assembly.start.accepted lines, ?_⟩
    rw [Script.parseLines, Assembly.takeAll_accepted]
    rfl

theorem settled {c : Catalog} (h : c.OfScript) : c.Settled := by
  obtain ⟨lines, hlines⟩ := h.exists_lines
  exact Script.settled_parseLines hlines

end Catalog.OfScript

/-! ## The laws -/

/-- Escaping twice is escaping once, the second escaping finds a bind variable if the first
did, and a text without a colon or without an equals sign is left alone. So no statement
of a script is changed by escaping its text again, unless it changes tables. -/
theorem an_escaped_text_is_not_changed_again :
    (∀ t, Colons.escape (Colons.escape t) = Colons.escape t ∧
      (Colons.escaped? (Colons.escape t)).isSome = (Colons.escaped? t).isSome ∧
      Colons.isStable t = true) ∧
    ∀ c : Catalog, c.OfScript → ∀ s ∈ c.statements, s.kind ≠ .ddl →
      Colons.escape s.text = s.text := by
  constructor
  · intro t
    refine ⟨Colons.escape_escape t, ?_, Colons.isStable_eq_true t⟩
    rw [Colons.isSome_escaped?, Colons.isSome_escaped?, Colons.binds_escape]
  · intro c hc s hs hkind
    have hkept := hc.settled s hs
    rwa [Draft.keptText, if_neg hkind] at hkept

/-- A statement with bind variables, a lone colon right behind one and another in a literal. The
statement behind it makes a view, and its text would be changed. -/
theorem a_change_of_data_is_settled_and_a_view_is_not :
    let script := "-- tag=name: a\nupdate t\nset b = :c:, d=::e, f='1:2';\n".toList ++
      "-- tag=name: b\ncreate view v as select '1:2' from t where b = :c;".toList
    let c := ((Text.lines script).foldl Assembly.tryTake Assembly.start).catalog
    let s : Statement := ⟨"update t set b = :c::, d=:::e, f='1::2'".toList, .dml,
      Tags.single Line.nameKey ['a'], 0⟩
    c.OfScript ∧ Script.parse script = .ok c ∧ s ∈ c.statements ∧ s.kind ≠ .ddl ∧
      Colons.escape s.text = s.text ∧
      ∃ v ∈ c.statements, v.kind = .ddl ∧ Colons.escape v.text ≠ v.text := by
  intro script c s
  have hparse : Script.parse script = .ok c := by decide +kernel
  have hs : s ∈ c.statements := by decide +kernel
  have hkind : s.kind ≠ .ddl := by decide
  have hview : ∃ v ∈ c.statements, v.kind = .ddl ∧ Colons.escape v.text ≠ v.text := by
    decide +kernel
  have hscript : c.OfScript := .text hparse
  exact ⟨hscript, hparse, hs, hkind,
    an_escaped_text_is_not_changed_again.2 c hscript s hs hkind, hview⟩

end NamedSql
