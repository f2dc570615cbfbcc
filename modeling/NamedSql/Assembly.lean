-- Putting the statements of a script together, one line at a time. A name tag
-- starts a statement, and code with a terminator finishes it. A name that a
-- finished statement has is refused, and then nothing has changed.
import NamedSql.Catalog
import NamedSql.Colons
import NamedSql.Notice

namespace NamedSql

/-! ## The statement that is open -/

/-- A statement whose terminator has not come yet. -/
structure Draft where
  /-- The name in lower case. -/
  name : Text
  tags : Tags
  /-- The code so far, in one line. -/
  text : Text
  deriving DecidableEq, Repr

namespace Draft

/-- The statement that a name tag with this value starts. -/
def start (value : Text) : Draft := ⟨Text.lower value, Tags.single Line.nameKey value, []⟩

def addTag (d : Draft) (key value : Text) : Draft := { d with tags := d.tags.insert key value }

/-- Code joined to code by one space. Empty code leaves no trace. -/
def join (text code : Text) : Text :=
  if code.isEmpty then text else if text.isEmpty then code else text ++ ' ' :: code

def addCode (d : Draft) (code : Text) : Draft := { d with text := join d.text code }

/-- The text that is kept of a statement of some kind. The colons of a
statement that changes tables are left alone. -/
def keptText (kind : Kind) (text : Text) : Text :=
  if kind = .ddl then text else Colons.escape text

/-- The statement that the draft becomes, after `ordinal` others. -/
def statement (d : Draft) (ordinal : Nat) : Statement where
  text := keptText (Kind.ofText d.text) d.text
  kind := Kind.ofText d.text
  tags := d.tags
  ordinal := ordinal

end Draft

/-! ## One line -/

/-- What is finished, and what is open. -/
structure Assembly where
  done : Catalog
  draft : Option Draft
  deriving DecidableEq, Repr

/-- What a line leads to: the assembly after it or an error, and what is
noticed on the way. -/
structure Step where
  next : Except ParseError Assembly
  notices : List Notice

namespace Assembly

/-- Nothing is finished, and nothing is open. -/
def start : Assembly := ⟨.empty, none⟩

/-- Starts a statement. One that is open is abandoned. -/
def begin (a : Assembly) (value : Text) : Step :=
  if a.done.contains (Text.lower value) then ⟨.error (.duplicateName (Text.lower value)), []⟩
  else ⟨.ok { a with draft := some (Draft.start value) },
    (a.draft.map fun d => Notice.abandoned d.name).toList⟩

/-- Finishes the statement that `d` describes. -/
def close (a : Assembly) (d : Draft) : Step :=
  let s := d.statement a.done.size
  ⟨.ok ⟨a.done.put d.name s, none⟩, [.finished d.name s.ordinal s.kind]⟩

/-- Takes a line of this class. Outside of a statement only a name tag counts. -/
def step (a : Assembly) : Line → Step
  | .blank | .control | .comment => ⟨.ok a, []⟩
  | .name value => a.begin value
  | .tag key value =>
    match a.draft with
    | some d => ⟨.ok { a with draft := some (d.addTag key value) }, []⟩
    | none => ⟨.ok a, [.strayTag key]⟩
  | .fragment code => ⟨.ok { a with draft := a.draft.map (·.addCode code) }, []⟩
  | .terminated code =>
    match a.draft with
    | some d => a.close (d.addCode code)
    | none => ⟨.ok a, []⟩

/-- Takes one line of the script. -/
def take (a : Assembly) (raw : Text) : Except ParseError Assembly :=
  (a.step (Line.classify raw)).next

/-- What is noticed when the assembly takes one line of the script. -/
def noticesOf (a : Assembly) (raw : Text) : List Notice :=
  .classified (Line.classify raw) :: (a.step (Line.classify raw)).notices

end Assembly

/-! ## One line, in place -/

/-- A change of an assembly in place. It can be refused, and then what it has done by
that time stays done. -/
abbrev Change := ExceptT ParseError (StateM Assembly)

namespace Change

/-- Starts a statement, if its name is free. One that is open is abandoned. -/
def openDraft (value : Text) : Change Unit := do
  let name := Text.lower value
  if (← get).done.contains name then throw (.duplicateName name)
  modify fun a => { a with draft := some (Draft.start value) }

/-- Changes the statement that is open, if there is one. -/
def changeDraft (f : Draft → Draft) : Change Unit :=
  modify fun a => { a with draft := a.draft.map f }

/-- Takes the open statement away. -/
def takeDraft : Change (Option Draft) := modifyGet fun a => (a.draft, { a with draft := none })

/-- Puts the statement that `d` describes under its name. -/
def finish (d : Draft) : Change Unit :=
  modify fun a => { a with done := a.done.put d.name (d.statement a.done.size) }

/-- The change that a line of this class makes. -/
def ofLine : Line → Change Unit
  | .blank | .control | .comment => pure ()
  | .name value => openDraft value
  | .tag key value => changeDraft (·.addTag key value)
  | .fragment code => changeDraft (·.addCode code)
  | .terminated code => do
    match ← takeDraft with
    | some d => finish (d.addCode code)
    | none => pure ()

/-- A name that is taken is refused before anything is changed. -/
theorem run_openDraft (a : Assembly) (value : Text) :
    (openDraft value).run.run a =
      if a.done.contains (Text.lower value) then (.error (.duplicateName (Text.lower value)), a)
      else (.ok (), { a with draft := some (Draft.start value) }) := by
  change StateT.run (ExceptT.run (if a.done.contains (Text.lower value) then
    throw (.duplicateName (Text.lower value)) else modify _ : Change Unit)) a = _
  split <;> rfl

/-- A line changes the assembly to the next one, or it is refused and changes nothing. -/
theorem run_ofLine (a : Assembly) (l : Line) :
    (ofLine l).run.run a =
      match (a.step l).next with
      | .ok b => (.ok (), b)
      | .error e => (.error e, a) := by
  obtain ⟨c, o⟩ := a
  cases l with
  | name value =>
    rw [ofLine, run_openDraft, Assembly.step, Assembly.begin]
    split <;> rfl
  | tag key value | terminated code => cases o <;> rfl
  | _ => rfl

end Change

namespace Assembly

/-- Feeds one line of the script: whether it is refused, and the assembly afterwards. -/
def feed (a : Assembly) (raw : Text) : Except ParseError Unit × Assembly :=
  (Change.ofLine (Line.classify raw)).run.run a

/-! ## Many lines -/

/-- Takes lines until one is refused. -/
def takeAll (a : Assembly) (lines : List Text) : Except ParseError Assembly :=
  lines.foldlM take a

/-- The assembly after one line, whether or not the line is refused. -/
def tryTake (a : Assembly) (raw : Text) : Assembly := (a.feed raw).2

/-- Takes all lines, whether or not some are refused: for each the error, if
it was refused, and the assembly after it. -/
def history (a : Assembly) : List Text → List (Option ParseError × Assembly)
  | [] => []
  | raw :: rest =>
    match a.feed raw with
    | (.ok (), b) => (none, b) :: b.history rest
    | (.error e, b) => (some e, b) :: b.history rest

/-! ## The end of the script -/

/-- The finished statements. One that is open is dropped. -/
def catalog (a : Assembly) : Catalog := a.done

/-- What is noticed at the end of the script. -/
def closing (a : Assembly) : List Notice :=
  (a.draft.map fun d => Notice.dropped d.name).toList ++
    [.ended a.done.size (a.done.places .sequential).length (a.done.places .concurrent).length]

/-- All that is noticed from here to the end of the lines, or to the first
line that is refused. -/
def log (a : Assembly) : List Text → List Notice
  | [] => a.closing
  | raw :: rest =>
    a.noticesOf raw ++
      match a.take raw with
      | .ok b => b.log rest
      | .error _ => []

end Assembly

end NamedSql
