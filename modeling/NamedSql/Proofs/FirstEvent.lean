-- The first event decides. Three things can end the reading of a script early: a
-- name that is taken, a line that is not valid UTF-8, and a read that fails. The one
-- that comes first in the order of the lines is the answer, and what stands behind it
-- is never looked at.
import Mathlib.Data.List.Forall2
import Mathlib.Data.Set.List
import NamedSql.Proofs.Reads
import NamedSql.Proofs.Segments

namespace NamedSql

/-! ## The pure model -/

namespace Read

/-- The bytes of the lines that count, before a failure or the end: of all lines that a
line feed ended, and of the last one, unless it is empty or a failure takes it. -/
def lineBytes (bytes : List UInt8) (failure : Option ReadFailure) : List (List UInt8) :=
  (Text.cutAt lineFeed bytes).1 ++
    if failure.isSome || (Text.cutAt lineFeed bytes).2.isEmpty then []
    else [(Text.cutAt lineFeed bytes).2]

/-- The lines hold a name tag with this key and its terminator. -/
def hasFinished (lines : List (List UInt8)) (key : Text) : Bool :=
  (Segment.ofLines ((lines.filterMap Text.decode?).map Line.classify)).any fun s =>
    s.isComplete && s.key == key

/-- Why the line at place `i` is refused, if it is: it is not valid UTF-8, or its name
belongs to a statement that the lines before it have finished. A carriage return at the end
of a line is white space there. -/
def refusalAt? (lines : List (List UInt8)) (i : Nat) : Option ParseError :=
  match lines[i]? with
  | none => none
  | some line =>
    match Text.decode? line with
    | none => some (.unreadable .invalidText)
    | some text =>
      match Line.classify text with
      | .name value =>
        if hasFinished (lines.take i) (Text.lower value) then
          some (.duplicateName (Text.lower value))
        else none
      | _ => none

/-- The bytes of the first `n` lines that a line feed ended, with their line feeds. -/
def firstLines (n : Nat) (bytes : List UInt8) : List UInt8 :=
  Text.joinEnded lineFeed ((Text.cutAt lineFeed bytes).1.take n)

theorem refusalAt?_of_length_le {lines : List (List UInt8)} {i : Nat} (h : lines.length ≤ i) :
    refusalAt? lines i = none := by
  unfold refusalAt?
  rw [List.getElem?_eq_none h]

theorem not_refused {lines : List (List UInt8)}
    (h : ∀ i < lines.length, refusalAt? lines i = none) (i : Nat) : refusalAt? lines i = none := by
  by_cases hi : i < lines.length
  · exact h i hi
  · exact refusalAt?_of_length_le (by omega)

/-! ## What is read of the bytes of a line -/

/-- Bytes that are no text are invalid. Of all others their text is read, but for what the
class of a line does not depend on. -/
def ReadsAs (bytes : List UInt8) (l : Except ReadFailure Text) : Prop :=
  match Text.decode? bytes with
  | none => l = .error .invalidText
  | some text => ∃ line, l = .ok line ∧ Line.classify line = Line.classify text

theorem readsAs_decodeLine (bytes : List UInt8) : ReadsAs bytes (decodeLine bytes) := by
  unfold ReadsAs decodeLine
  cases Text.decode? bytes with
  | none => rfl
  | some text => exact ⟨text, rfl, rfl⟩

theorem readsAs_decodeEnded (bytes : List UInt8) : ReadsAs bytes (decodeEnded bytes) := by
  unfold ReadsAs decodeEnded decodeLine
  cases Text.decode? bytes with
  | none => rfl
  | some text => exact ⟨Text.dropReturn text, rfl, Line.classify_dropReturn text⟩

theorem readsAs_linesOf (bytes : List UInt8) (failure : Option ReadFailure) :
    List.Forall₂ ReadsAs (lineBytes bytes failure) (linesOf bytes failure) := by
  unfold lineBytes linesOf lastLine
  apply List.rel_append
  · rw [List.forall₂_map_right_iff, List.forall₂_same]
    exact fun p _ => readsAs_decodeEnded p
  · split
    · exact .nil
    · exact .cons (readsAs_decodeLine _) .nil

/-- Lines that are all readable have the classes that their bytes tell. -/
theorem classes_of_readsAs {lines : List (List UInt8)} {before : List Text}
    (h : List.Forall₂ ReadsAs lines (before.map Except.ok)) :
    (lines.filterMap Text.decode?).map Line.classify = before.map Line.classify := by
  rw [List.forall₂_map_right_iff] at h
  induction h with
  | nil => rfl
  | @cons bytes line _ _ hline _ ih =>
    unfold ReadsAs at hline
    cases hd : Text.decode? bytes with
    | none => simp [hd] at hline
    | some text =>
      obtain ⟨line', hline', hclass⟩ := by simpa only [hd] using hline
      cases hline'
      rw [List.filterMap_cons_some hd, List.map_cons, List.map_cons, ih, hclass]

end Read

/-! ## One line -/

namespace Script

theorem hasFinished_eq {lines : List (List UInt8)} {before : List Text} {a : Assembly}
    (hread : List.Forall₂ Read.ReadsAs lines (before.map Except.ok))
    (h : Assembly.start.takeAll before = .ok a) (key : Text) :
    Read.hasFinished lines key = a.done.contains key := by
  have hparse : parseLines before = .ok a.done := by
    unfold parseLines
    rw [h]
    rfl
  have hdone := (segments_of_parseLines hparse).2
  unfold Read.hasFinished
  rw [Read.classes_of_readsAs hread, hdone, Segment.contains_catalog]

/-- The line behind lines that were all taken is refused for the reason that `refusalAt?`
gives, and it is taken if there is none. -/
theorem takeRead_eq {lines : List (List UInt8)} {ls : List (Except ReadFailure Text)}
    {before : List Text} {a : Assembly} {n : Nat} (hread : List.Forall₂ Read.ReadsAs lines ls)
    (hbefore : ls.take n = before.map Except.ok) (ha : Assembly.start.takeAll before = .ok a)
    (hn : n < ls.length) :
    match Read.refusalAt? lines n with
    | some e => takeRead a ls[n] = .error e
    | none => ∃ line b, ls[n] = .ok line ∧ a.take line = .ok b := by
  have hn' : n < lines.length := hread.length_eq ▸ hn
  have hl : Read.ReadsAs lines[n] ls[n] := hread.get hn' hn
  have htaken : List.Forall₂ Read.ReadsAs (lines.take n) (before.map Except.ok) :=
    hbefore ▸ List.forall₂_take n hread
  generalize ls[n] = l at hl ⊢
  unfold Read.ReadsAs at hl
  unfold Read.refusalAt?
  rw [List.getElem?_eq_getElem hn']
  cases hd : Text.decode? lines[n] with
  | none =>
    simp only [hd] at hl ⊢
    rw [hl]
    rfl
  | some text =>
    simp only [hd] at hl ⊢
    obtain ⟨line, rfl, hclass⟩ := hl
    have htake : a.take line = (a.step (Line.classify text)).next := by
      rw [← hclass]
      rfl
    cases hc : Line.classify text with
    | name value =>
      rw [hc] at htake
      simp only [hasFinished_eq htaken ha]
      cases hdone : a.done.contains (Text.lower value) with
      | true =>
        simp only [if_true]
        exact htake.trans (Assembly.begin_taken hdone)
      | false =>
        simp only [Bool.false_eq_true, if_false]
        exact ⟨line, _, rfl, htake.trans (Assembly.begin_free hdone)⟩
    | _ =>
      obtain ⟨b, hb⟩ := Assembly.step_not_refused a
        (show (Line.classify text).isName = false by rw [hc]; rfl)
      exact ⟨line, b, rfl, htake.trans hb⟩

/-! ## The lines before the first event -/

/-- Lines of which none is refused are all taken. -/
theorem takeAll_before {lines : List (List UInt8)} {ls : List (Except ReadFailure Text)} {n : Nat}
    (hread : List.Forall₂ Read.ReadsAs lines ls) (hn : n ≤ ls.length)
    (h : ∀ j < n, Read.refusalAt? lines j = none) :
    ∃ before a, ls.take n = before.map Except.ok ∧ Assembly.start.takeAll before = .ok a := by
  induction n with
  | zero => exact ⟨[], Assembly.start, rfl, rfl⟩
  | succ n ih =>
    obtain ⟨before, a, hbefore, ha⟩ := ih (by omega) fun j hj => h j (by omega)
    have hnext := takeRead_eq hread hbefore ha (by omega)
    rw [h n (by omega)] at hnext
    obtain ⟨line, b, hline, hb⟩ := hnext
    refine ⟨before ++ [line], b, ?_, ?_⟩
    · rw [List.take_add_one, List.getElem?_eq_getElem (by omega), hbefore, hline]
      simp
    · rw [Assembly.takeAll_concat ha, hb]

/-! ## The answer -/

theorem foldlM_takeRead_error {before : List Text} {a : Assembly} {l : Except ReadFailure Text}
    {e : ParseError} (ha : Assembly.start.takeAll before = .ok a) (hl : takeRead a l = .error e)
    (rest : List (Except ReadFailure Text)) :
    (before.map Except.ok ++ l :: rest).foldlM takeRead Assembly.start = .error e := by
  rw [List.foldlM_append, foldlM_takeRead_ok, ha]
  change (l :: rest).foldlM takeRead a = .error e
  rw [List.foldlM_cons, hl]
  rfl

theorem parseReads_refused {reads : List Read} {i : Nat} {e : ParseError}
    (he : Read.refusalAt? (Read.lineBytes (Read.content reads) (Read.failure? reads)) i = some e)
    (hfirst : ∀ j < i,
      Read.refusalAt? (Read.lineBytes (Read.content reads) (Read.failure? reads)) j = none) :
    parseReads reads = .error e := by
  have hread := Read.readsAs_linesOf (Read.content reads) (Read.failure? reads)
  unfold parseReads
  rw [Read.lines_eq]
  generalize Read.lineBytes (Read.content reads) (Read.failure? reads) = lines at he hfirst hread
  generalize Read.linesOf (Read.content reads) (Read.failure? reads) = ls at hread ⊢
  have hi : i < ls.length := by
    by_contra hge
    rw [Read.refusalAt?_of_length_le (by rw [hread.length_eq]; omega)] at he
    cases he
  obtain ⟨before, a, hbefore, ha⟩ := takeAll_before hread (Nat.le_of_lt hi) hfirst
  have hl := takeRead_eq hread hbefore ha hi
  rw [he] at hl
  have hsplit : ls = before.map Except.ok ++ ls[i] :: ls.drop (i + 1) := by
    rw [← hbefore, List.getElem_cons_drop, List.take_append_drop]
  rw [hsplit, List.append_assoc, List.cons_append, foldlM_takeRead_error ha hl]
  rfl

/-- Where no line is refused, all lines are read and taken. -/
theorem takeAll_of_not_refused {reads : List Read}
    (h : ∀ i, Read.refusalAt? (Read.lineBytes (Read.content reads) (Read.failure? reads)) i = none) :
    ∃ before a, Read.linesOf (Read.content reads) (Read.failure? reads) = before.map Except.ok ∧
      Assembly.start.takeAll before = .ok a := by
  have hread := Read.readsAs_linesOf (Read.content reads) (Read.failure? reads)
  have htaken := takeAll_before hread (Nat.le_refl _) fun j _ => h j
  rwa [List.take_length] at htaken

theorem parseReads_failed {reads : List Read} {why : ReadFailure}
    (h : ∀ i, Read.refusalAt? (Read.lineBytes (Read.content reads) (Read.failure? reads)) i = none)
    (hwhy : Read.failure? reads = some why) : parseReads reads = .error (.unreadable why) := by
  obtain ⟨before, a, hbefore, ha⟩ := takeAll_of_not_refused h
  unfold parseReads
  rw [Read.lines_eq, hbefore, hwhy, Option.map_some, Option.toList_some,
    foldlM_takeRead_error ha (e := .unreadable why) rfl]
  rfl

theorem parseReads_whole {reads : List Read}
    (h : ∀ i, Read.refusalAt? (Read.lineBytes (Read.content reads) (Read.failure? reads)) i = none)
    (hgood : Read.failure? reads = none) :
    ∃ (before : List Text) (c : Catalog),
      Read.linesOf (Read.content reads) none = before.map Except.ok ∧
        parseReads reads = .ok c := by
  obtain ⟨before, a, hbefore, ha⟩ := takeAll_of_not_refused h
  rw [hgood] at hbefore
  refine ⟨before, a.catalog, hbefore, ?_⟩
  unfold parseReads
  rw [Read.lines_eq, hgood, hbefore, Option.map_none, Option.toList_none, List.append_nil,
    foldlM_takeRead_ok, ha]
  rfl

end Script

namespace Read

/-! ## Bytes behind the deciding line -/

theorem refusalAt?_take {lines : List (List UInt8)} {i n : Nat} (h : i < n) :
    refusalAt? (lines.take n) i = refusalAt? lines i := by
  unfold refusalAt?
  rw [List.getElem?_take_of_lt h, List.take_take, Nat.min_eq_left (Nat.le_of_lt h)]

theorem lineBytes_joinEnded {parts : List (List UInt8)} (h : ∀ p ∈ parts, lineFeed ∉ p)
    (more : List UInt8) (failure : Option ReadFailure) :
    lineBytes (Text.joinEnded lineFeed parts ++ more) failure = parts ++ lineBytes more failure := by
  have hcut : Text.cutAt lineFeed (Text.joinEnded lineFeed parts) = (parts, []) := by
    simpa using Text.cutAt_joinEnded h (show lineFeed ∉ ([] : List UInt8) by simp)
  unfold lineBytes
  rw [Text.cutAt_append, hcut]
  simp

/-- The first lines are the same whatever bytes come behind them. -/
theorem take_lineBytes {bytes other : List UInt8} {n : Nat}
    (hn : n ≤ (Text.cutAt lineFeed bytes).1.length) (h : firstLines n bytes <+: other)
    (failure failure' : Option ReadFailure) :
    (lineBytes other failure').take n = (lineBytes bytes failure).take n := by
  have hfree : ∀ p ∈ (Text.cutAt lineFeed bytes).1.take n, lineFeed ∉ p :=
    fun p hp => (Text.not_mem_cutAt bytes).1 p (List.mem_of_mem_take hp)
  obtain ⟨more, rfl⟩ := h
  have hlen : ((Text.cutAt lineFeed bytes).1.take n).length = n := by simpa using hn
  unfold firstLines
  rw [lineBytes_joinEnded hfree, List.take_left' hlen]
  unfold lineBytes
  rw [List.take_append_of_le_length hn]

/-- Behind a failure nothing is read. -/
theorem lines_append_of_failure {reads : List Read} {why : ReadFailure}
    (h : failure? reads = some why) (more : List Read) : lines (reads ++ more) = lines reads := by
  unfold lines
  generalize ([] : List UInt8) = part
  induction reads generalizing part with
  | nil => simp [failure?] at h
  | cons read rest ih =>
    cases read with
    | interrupted => exact ih h part
    | failed why' => rfl
    | bytes piece =>
      simp only [List.cons_append, linesFrom]
      rw [ih h]

/-! ## Bytes whose lines are all valid -/

theorem encode_of_decodeLine {bytes : List UInt8} {l : Text} (h : decodeLine bytes = .ok l) :
    bytes = Text.encode l := by
  unfold decodeLine at h
  split at h
  · rename_i line hline
    cases h
    exact Text.eq_encode_of_decode? hline
  · cases h

theorem encode_of_decodeEnded {bytes : List UInt8} {l : Text} (h : decodeEnded bytes = .ok l) :
    ∃ t, Text.encode t = bytes := by
  unfold decodeEnded at h
  cases hd : decodeLine bytes with
  | ok t => exact ⟨t, (encode_of_decodeLine hd).symm⟩
  | error why => rw [hd] at h; cases h

/-- Bytes whose lines are all valid are valid as a whole. -/
theorem decode?_of_linesOf {bytes : List UInt8} {before : List Text}
    (h : linesOf bytes none = before.map Except.ok) :
    ∃ script, Text.decode? bytes = some script := by
  have hvalid : ∀ l ∈ linesOf bytes none, ∃ t, l = .ok t := by
    intro l hl
    rw [h] at hl
    obtain ⟨t, _, rfl⟩ := List.mem_map.1 hl
    exact ⟨t, rfl⟩
  unfold linesOf at hvalid
  have hparts : (Text.cutAt lineFeed bytes).1 ∈ Set.range (List.map Text.encode) := by
    rw [Set.range_list_map]
    intro p hp
    obtain ⟨t, ht⟩ := hvalid _ (List.mem_append_left _ (List.mem_map_of_mem hp))
    exact encode_of_decodeEnded ht
  obtain ⟨parts, hparts⟩ := hparts
  have hleft : ∃ left, Text.encode left = (Text.cutAt lineFeed bytes).2 := by
    by_cases hempty : (Text.cutAt lineFeed bytes).2 = []
    · exact ⟨[], hempty.symm⟩
    · obtain ⟨t, ht⟩ := hvalid (decodeLine (Text.cutAt lineFeed bytes).2)
        (List.mem_append_right _ (by simp [lastLine, hempty]))
      exact ⟨t, (encode_of_decodeLine ht).symm⟩
  obtain ⟨left, hleft⟩ := hleft
  refine ⟨Text.joinEnded '\n' parts ++ left, ?_⟩
  rw [← Text.decode?_encode (Text.joinEnded '\n' parts ++ left), Text.encode_append,
    Text.encode_joinEnded, hparts, hleft, Text.joinEnded_cutAt]

end Read

/-! ## The laws -/

/-- The first event in the order of the lines is the answer: the first line that is refused,
or else the failure of a read, or else the end of the script. The line that a failure
interrupts does not count, and what stands behind the deciding line or behind a failure
changes nothing. -/
theorem the_first_event_decides (reads : List Read) :
    let bytes := Read.content reads
    let failure := Read.failure? reads
    let lines := Read.lineBytes bytes failure
    (∀ i e, Read.refusalAt? lines i = some e → (∀ j < i, Read.refusalAt? lines j = none) →
      Script.parseReads reads = .error e ∧
      (i < (Text.cutAt Read.lineFeed bytes).1.length → ∀ others : List Read,
        Read.firstLines (i + 1) bytes <+: Read.content others →
          Script.parseReads others = .error e)) ∧
    ((∀ i, Read.refusalAt? lines i = none) → ∀ why, failure = some why →
      Script.parseReads reads = .error (.unreadable why) ∧
      ∀ more : List Read, Script.parseReads (reads ++ more) = .error (.unreadable why)) ∧
    ((∀ i, Read.refusalAt? lines i = none) → failure = none →
      ∃ script c, Text.decode? bytes = some script ∧ Script.parse script = .ok c ∧
        Script.parseReads reads = .ok c) := by
  intro bytes failure lines
  refine ⟨?_, ?_, ?_⟩
  · intro i e he hfirst
    refine ⟨Script.parseReads_refused he hfirst, ?_⟩
    intro hi others hothers
    have htake := Read.take_lineBytes hi hothers failure (Read.failure? others)
    have hsame : ∀ j < i + 1, Read.refusalAt?
        (Read.lineBytes (Read.content others) (Read.failure? others)) j = Read.refusalAt? lines j := by
      intro j hj
      rw [← Read.refusalAt?_take hj, htake, Read.refusalAt?_take hj]
    apply Script.parseReads_refused (i := i)
    · rw [hsame i (by omega), he]
    · intro j hj
      rw [hsame j (by omega), hfirst j hj]
  · intro h why hwhy
    have hanswer := Script.parseReads_failed h hwhy
    refine ⟨hanswer, ?_⟩
    intro more
    rw [← hanswer]
    unfold Script.parseReads
    rw [Read.lines_append_of_failure hwhy]
  · intro h hgood
    obtain ⟨before, c, hbefore, hanswer⟩ := Script.parseReads_whole h hgood
    obtain ⟨script, hscript⟩ := Read.decode?_of_linesOf hbefore
    refine ⟨script, c, hscript, ?_, hanswer⟩
    rw [← hanswer, Script.parseReads_of_encode (Text.eq_encode_of_decode? hscript) hgood]

/-- A name that is taken and a line that is no text, each before the other, a failure that
interrupts a line that is no text, and reads without any of them. -/
theorem whatever_comes_first_is_the_answer :
    let script := "-- tag=name: Über\nselect 1;\n".toList
    let again := Text.encode "-- tag=name: ÜBER\n".toList
    let invalid : List UInt8 := [255, 10]
    Script.parseReads [.bytes (Text.encode script ++ again), .bytes invalid] =
        .error (.duplicateName "über".toList) ∧
      Script.parseReads [.bytes (Text.encode script), .bytes (invalid ++ again)] =
        .error (.unreadable .invalidText) ∧
      Script.parseReads [.bytes (Text.encode script), .bytes [255], .failed .isDirectory,
        .bytes again] = .error (.unreadable .isDirectory) ∧
      ∃ c, Script.parse script = .ok c ∧
        Script.parseReads [.bytes (Text.encode script)] = .ok c := by
  intro script again invalid
  refine ⟨?_, ?_, ?_, ?_⟩
  · exact ((the_first_event_decides _).1 2 _ (by decide +kernel) (by decide +kernel)).1
  · exact ((the_first_event_decides _).1 2 _ (by decide +kernel) (by decide +kernel)).1
  · exact ((the_first_event_decides _).2.1 (Read.not_refused (by decide +kernel)) _ rfl).1
  · have hwhole : Text.decode? (Read.content [.bytes (Text.encode script)]) = some script := by
      decide +kernel
    obtain ⟨t, c, ht, hparse, hreads⟩ :=
      (the_first_event_decides [.bytes (Text.encode script)]).2.2
        (Read.not_refused (by decide +kernel)) rfl
    cases hwhole.symm.trans ht
    exact ⟨c, hparse, hreads⟩

end NamedSql
