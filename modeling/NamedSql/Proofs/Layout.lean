-- The layout of a script. Lines that are ignored can be put in and taken out anywhere,
-- and white space around a line can be more or less: the statements stay the same, and
-- so does the name that is taken again. The same holds of the line ends.
import Mathlib.Logic.Relation
import NamedSql.Proofs.Reads

namespace NamedSql

/-! ## The pure model -/

/-- One change of the layout of a list of lines. -/
inductive LayoutEdit : List Text → List Text → Prop where
  /-- A line that is ignored is put in. -/
  | insert {before after : List Text} {raw : Text} :
      (Line.classify raw).isIgnorable = true → LayoutEdit (before ++ after) (before ++ raw :: after)
  /-- A line that is ignored is taken out. -/
  | delete {before after : List Text} {raw : Text} :
      (Line.classify raw).isIgnorable = true → LayoutEdit (before ++ raw :: after) (before ++ after)
  /-- White space is put around a line. -/
  | pad {before after : List Text} {left raw right : Text} :
      (∀ c ∈ left, Text.isSpace c = true) → (∀ c ∈ right, Text.isSpace c = true) →
      LayoutEdit (before ++ raw :: after) (before ++ (left ++ raw ++ right) :: after)
  /-- White space around a line is taken away. -/
  | strip {before after : List Text} {left raw right : Text} :
      (∀ c ∈ left, Text.isSpace c = true) → (∀ c ∈ right, Text.isSpace c = true) →
      LayoutEdit (before ++ (left ++ raw ++ right) :: after) (before ++ raw :: after)

/-- The text with a carriage return put before every line feed. -/
def Text.withReturns (t : Text) : Text := t.flatMap fun c => if c = '\n' then ['\r', '\n'] else [c]

/-! ## One change -/

namespace Line

theorem classify_pad {left right : Text} (hleft : ∀ c ∈ left, Text.isSpace c = true)
    (hright : ∀ c ∈ right, Text.isSpace c = true) (raw : Text) :
    classify (left ++ raw ++ right) = classify raw := by
  unfold classify
  rw [Text.trim_append_spaces _ hright, Text.trim_spaces_append _ hleft]

end Line

namespace Script

theorem parseLines_edit {xs ys : List Text} (h : LayoutEdit xs ys) :
    parseLines xs = parseLines ys := by
  cases h with
  | insert hraw => exact (parseLines_insert_ignorable _ _ hraw).symm
  | delete hraw => exact parseLines_insert_ignorable _ _ hraw
  | @pad _ _ _ raw _ hleft hright =>
    apply parseLines_congr
    simp only [List.map_append, List.map_cons, Line.classify_pad hleft hright raw]
  | @strip _ _ _ raw _ hleft hright =>
    apply parseLines_congr
    simp only [List.map_append, List.map_cons, Line.classify_pad hleft hright raw]

end Script

/-! ## Line ends -/

namespace Text

/-- Every line that a line feed ends gets a carriage return, and nothing else does. -/
theorem cutAt_withReturns (t : Text) :
    cutAt '\n' (withReturns t) = ((cutAt '\n' t).1.map (· ++ ['\r']), (cutAt '\n' t).2) := by
  induction t with
  | nil => rfl
  | cons c cs ih =>
    by_cases hc : c = '\n'
    · subst hc
      have hcut : cutAt '\n' (['\r'] ++ '\n' :: withReturns cs) = _ :=
        cutAt_append_mark (by decide) _
      rw [ih] at hcut
      rw [cutAt_mark_cons]
      exact hcut
    · have hkept : withReturns (c :: cs) = c :: withReturns cs := by simp [withReturns, hc]
      rw [hkept, cutAt, if_neg hc, ih, cutAt, if_neg hc]
      rcases cutAt '\n' cs with ⟨_ | ⟨part, parts⟩, rest⟩ <;> rfl

theorem dropReturn_concat (l : Text) : dropReturn (l ++ ['\r']) = l := by
  simp [dropReturn]

theorem classify_lines_withReturns (t : Text) :
    (lines (withReturns t)).map Line.classify = (lines t).map Line.classify := by
  unfold lines
  rw [cutAt_withReturns, List.map_append, List.map_append, List.map_map, List.map_map,
    List.map_map]
  congr 1
  apply List.map_congr_left
  intro l _
  rw [Function.comp_apply, Function.comp_apply, Function.comp_apply, dropReturn_concat,
    Line.classify_dropReturn]

end Text

/-! ## The laws -/

/-- However often the layout of a list of lines is changed, and whichever way the lines of a
text end, the script gives the same statements, or the same name that is taken again. -/
theorem the_layout_of_a_script_does_not_matter :
    (∀ lines others : List Text, Relation.ReflTransGen LayoutEdit lines others →
      Script.parseLines lines = Script.parseLines others) ∧
    ∀ script : Text, Script.parse script.withReturns = Script.parse script := by
  constructor
  · intro lines others h
    induction h with
    | refl => rfl
    | tail _ hedit ih => exact ih.trans (Script.parseLines_edit hedit)
  · intro script
    exact Script.parseLines_congr (Text.classify_lines_withReturns script)

/-- A control line in the middle of a statement, and white space that is no blank of ASCII. -/
theorem a_statement_with_another_layout :
    let lines := ["-- tag=name: A".toList, "select *".toList, "from t;".toList]
    let others := ["-- tag=name: A".toList, "commit;".toList, "\u00a0select *\r".toList,
      "from t;".toList]
    Relation.ReflTransGen LayoutEdit lines others ∧
      Script.parseLines lines = Script.parseLines others := by
  intro lines others
  have hcontrol : (Line.classify "commit;".toList).isIgnorable = true := by decide +kernel
  have hinsert : LayoutEdit lines [_, _, _, _] :=
    @LayoutEdit.insert ["-- tag=name: A".toList] _ _ hcontrol
  have hleft : ['\u00a0'].all Text.isSpace = true := by decide
  have hright : ['\r'].all Text.isSpace = true := by decide
  have hpad : LayoutEdit [_, _, _, _] others :=
    @LayoutEdit.pad ["-- tag=name: A".toList, "commit;".toList] _ _ "select *".toList _
      (List.all_eq_true.1 hleft) (List.all_eq_true.1 hright)
  have h := (Relation.ReflTransGen.single hinsert).tail hpad
  exact ⟨h, the_layout_of_a_script_does_not_matter.1 lines others h⟩

end NamedSql
