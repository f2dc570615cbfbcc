-- The kind of a statement beside its text. The kind is told before the colons of the text are
-- escaped, and the text is kept after it. Escaping adds colons only, and no word that
-- tells a kind holds one, so the two still fit, unless the text was too short to be
-- told and has become long enough.
import NamedSql.Proofs.EscapedTexts

namespace NamedSql

/-! ## The pure model -/

/-- The texts of the finished statements of a script, before their colons are escaped. -/
def Script.rawTexts (lines : List Text) : List Text :=
  ((Segment.ofLines (lines.map Line.classify)).filter Segment.isComplete).map Segment.text

/-- The kind of the statement is told from this text, and its text is what is kept of it. -/
structure Statement.MadeOf (s : Statement) (raw : Text) : Prop where
  kind : s.kind = Kind.ofText raw
  text : s.text = Draft.keptText s.kind raw

/-! ## Kinds of escaped texts -/

namespace Colons

theorem byteLength_le_doubledFrom (b : Before) (t : Text) :
    Text.byteLength t ≤ Text.byteLength (doubledFrom b t) := by
  induction t generalizing b with
  | nil => exact Nat.le_refl _
  | cons c cs ih =>
    by_cases h : c = ':' ∧ b = .other ∧ cs.head? ≠ some ':'
    · have hcs := ih .colon
      rw [doubledFrom_lone h, h.1]
      simp only [Text.byteLength]
      omega
    · have hcs := ih (b.next c)
      rw [doubledFrom_kept h]
      simp only [Text.byteLength]
      omega

theorem byteLength_le_escape (t : Text) : Text.byteLength t ≤ Text.byteLength (escape t) := by
  rw [escape_eq]
  split
  · exact byteLength_le_doubledFrom .other t
  · exact Nat.le_refl _

end Colons

namespace Kind

/-- No word that tells a kind has a colon, so escaping neither adds nor takes one away. -/
theorem ofWords_escape (t : Text) : ofWords (Colons.escape t) = ofWords t := by
  unfold ofWords
  rw [Colons.any_startsWithWord_escape (by decide), Colons.any_startsWithWord_escape (by decide),
    Colons.any_startsWithWord_escape (by decide)]

theorem ofText_of_le {t : Text} (h : fewestBytes ≤ Text.byteLength t) : ofText t = ofWords t :=
  if_neg (Nat.not_lt.2 h)

theorem ofText_of_lt {t : Text} (h : Text.byteLength t < fewestBytes) : ofText t = .unknown :=
  if_pos h

theorem ofText_escape {t : Text} (h : fewestBytes ≤ Text.byteLength t) :
    ofText (Colons.escape t) = ofText t := by
  rw [ofText_of_le h, ofText_of_le (Nat.le_trans h (Colons.byteLength_le_escape t)),
    ofWords_escape]

theorem le_byteLength_of_ofText_ne {t : Text} (h : ofText t ≠ .unknown) :
    fewestBytes ≤ Text.byteLength t := by
  by_contra hlt
  exact h (ofText_of_lt (Nat.lt_of_not_le hlt))

end Kind

/-! ## Statements and the texts they are made of -/

namespace Statement.MadeOf

variable {s : Statement} {raw : Text} (h : s.MadeOf raw)
include h

/-- A kind that has been told is told from the kept text too. -/
theorem ofText_text (hkind : s.kind ≠ .unknown) : Kind.ofText s.text = s.kind := by
  have hlong : Kind.fewestBytes ≤ Text.byteLength raw :=
    Kind.le_byteLength_of_ofText_ne (h.kind ▸ hkind)
  rw [h.text, Draft.keptText]
  split
  · exact h.kind.symm
  · rw [Kind.ofText_escape hlong, h.kind]

/-- A kind that has not been told is told from the kept text only if that has become long enough. -/
theorem byteLength_lt_of_ofText_ne (hkind : s.kind = .unknown) (htold : Kind.ofText s.text ≠ .unknown) :
    Text.byteLength raw < Kind.fewestBytes ∧ Kind.fewestBytes ≤ Text.byteLength s.text := by
  refine ⟨?_, Kind.le_byteLength_of_ofText_ne htold⟩
  by_contra hlong
  apply htold
  rw [h.text, Draft.keptText, if_neg (by simp [hkind]),
    Kind.ofText_escape (Nat.le_of_not_lt hlong), ← h.kind, hkind]

end Statement.MadeOf

theorem Segment.madeOf_statement (g : Segment) (ordinal : Nat) :
    (g.statement ordinal).MadeOf g.text := ⟨rfl, rfl⟩

theorem Script.getElem?_rawTexts {lines : List Text} {c : Catalog}
    (h : Script.parseLines lines = .ok c) {i : Nat} {s : Statement}
    (hs : c.statements[i]? = some s) :
    ∃ raw, (Script.rawTexts lines)[i]? = some raw ∧ s.MadeOf raw := by
  obtain ⟨-, rfl⟩ := segments_of_parseLines h
  rw [Catalog.statements, Segment.catalog, List.map_map, List.getElem?_map,
    List.getElem?_zipIdx, Option.map_map] at hs
  obtain ⟨g, hg, rfl⟩ := Option.map_eq_some_iff.1 hs
  exact ⟨g.text, by rw [rawTexts, List.getElem?_map, hg]; rfl, g.madeOf_statement _⟩

/-! ## The laws -/

/-- A kind that can be told of a text is the kind of the escaped text. So, however a script is
handed over, a statement whose kind is known is of the kind that its kept text tells. A
statement whose kind is not known keeps a text that tells one only if the text was too short
before it was escaped, and is long enough now. -/
theorem escaping_does_not_change_the_kind :
    (∀ t, 10 ≤ Text.byteLength t → Kind.ofText (Colons.escape t) = Kind.ofText t) ∧
    (∀ c : Catalog, c.OfScript → (∃ lines, Script.parseLines lines = .ok c) ∧
      ∀ s ∈ c.statements, s.kind ≠ .unknown → Kind.ofText s.text = s.kind) ∧
    ∀ lines c, Script.parseLines lines = .ok c →
      ∀ (i : Nat) (s : Statement), c.statements[i]? = some s → ∃ raw,
        (Script.rawTexts lines)[i]? = some raw ∧ s.MadeOf raw ∧
        (s.kind = .unknown → Kind.ofText s.text ≠ .unknown →
          Text.byteLength raw < 10 ∧ 10 ≤ Text.byteLength s.text) := by
  refine ⟨fun t => Kind.ofText_escape, ?_, ?_⟩
  · intro c hc
    obtain ⟨lines, hparse⟩ := hc.exists_lines
    refine ⟨⟨lines, hparse⟩, fun s hs hkind => ?_⟩
    obtain ⟨i, hi⟩ := List.mem_iff_getElem?.1 hs
    obtain ⟨raw, -, hmade⟩ := Script.getElem?_rawTexts hparse hi
    exact hmade.ofText_text hkind
  · intro lines c hparse i s hs
    obtain ⟨raw, hraw, hmade⟩ := Script.getElem?_rawTexts hparse hs
    exact ⟨raw, hraw, hmade, hmade.byteLength_lt_of_ofText_ne⟩

/-- Three statements, each with a lone colon behind its first word. The first gets its tenth byte
from the escaping, and the third changes tables and keeps its lone colon. -/
theorem a_kind_is_told_before_the_tenth_byte_comes :
    let lines : List Text := ["-- tag=name: a".toList, "select:=:;".toList,
      "-- tag=name: b".toList, "update:t=:x;".toList,
      "-- tag=name: c".toList, "drop table:a=:b;".toList]
    let query : Statement := ⟨"select::=:".toList, .unknown, Tags.single Line.nameKey ['a'], 0⟩
    let change : Statement := ⟨"update::t=:x".toList, .dml, Tags.single Line.nameKey ['b'], 1⟩
    let drop : Statement := ⟨"drop table:a=:b".toList, .ddl, Tags.single Line.nameKey ['c'], 2⟩
    let c : Catalog := ⟨[(['a'], query), (['b'], change), (['c'], drop)]⟩
    (10 ≤ Text.byteLength "update:t=:x".toList ∧
      Kind.ofText (Colons.escape "update:t=:x".toList) = Kind.ofText "update:t=:x".toList) ∧
    (c.OfScript ∧ (change ∈ c.statements ∧ change.kind ≠ .unknown ∧
      Kind.ofText change.text = change.kind) ∧
      drop ∈ c.statements ∧ drop.kind ≠ .unknown ∧ Kind.ofText drop.text = drop.kind) ∧
    Script.parseLines lines = .ok c ∧ c.statements[0]? = some query ∧ query.kind = .unknown ∧
      Kind.ofText query.text = .dql ∧
      (Script.rawTexts lines)[0]? = some "select:=:".toList ∧ query.MadeOf "select:=:".toList ∧
      Text.byteLength "select:=:".toList < 10 ∧ 10 ≤ Text.byteLength query.text := by
  intro lines query change drop c
  have hparse : Script.parseLines lines = .ok c := by decide +kernel
  have hscript : c.OfScript := .lines hparse
  have hlong : 10 ≤ Text.byteLength "update:t=:x".toList := by decide
  have hchange : change ∈ c.statements := by decide
  have hdrop : drop ∈ c.statements := by decide
  have hquery : c.statements[0]? = some query := rfl
  have htold : Kind.ofText query.text = .dql := by decide
  obtain ⟨hescape, hkept, hshort⟩ := escaping_does_not_change_the_kind
  have hfirst : (Script.rawTexts lines)[0]? = some "select:=:".toList := by decide +kernel
  obtain ⟨raw, hraw, hmade, hbytes⟩ := hshort lines c hparse 0 query hquery
  obtain rfl : "select:=:".toList = raw := Option.some.inj (hfirst.symm.trans hraw)
  refine ⟨⟨hlong, hescape _ hlong⟩, ⟨hscript, ⟨hchange, by decide, ?_⟩, hdrop, by decide, ?_⟩,
    hparse, hquery, rfl, htold, hraw, hmade, hbytes rfl (by rw [htold]; decide)⟩
  · exact (hkept c hscript).2 change hchange (by decide)
  · exact (hkept c hscript).2 drop hdrop (by decide)

end NamedSql
