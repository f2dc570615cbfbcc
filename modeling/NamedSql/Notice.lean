-- What is told of a script: why it is refused, and what is noticed while it is put
-- together. Only two things are errors: a name that is used twice, and a source that
-- cannot be read. All other flaws are passed over with a notice. Each notice has a level,
-- and a listener hears those whose level is not beyond its own.
import NamedSql.Statement
import NamedSql.Text.Quoted

namespace NamedSql

/-! ## Errors -/

/-- Why a source cannot be read. -/
inductive ReadFailure where
  | notFound
  | isDirectory
  /-- A line is not valid UTF-8. -/
  | invalidText
  /-- The source gives a reason of its own. -/
  | other (message : Text)
  deriving DecidableEq, Repr

inductive ParseError where
  /-- A finished statement has this name already. The name is in lower case. -/
  | duplicateName (name : Text)
  | unreadable (why : ReadFailure)
  deriving DecidableEq, Repr

namespace ReadFailure

def message : ReadFailure → Text
  | .notFound => "No such file or directory (os error 2)".toList
  | .isDirectory => "Is a directory (os error 21)".toList
  | .invalidText => "stream did not contain valid UTF-8".toList
  | .other message => message

/-- The failure in full, as a program shows it that ends with it. -/
def inFull : ReadFailure → Text
  | .notFound =>
    "Os \x7b code: 2, kind: NotFound, message: \"No such file or directory\" \x7d".toList
  | .isDirectory => "Os \x7b code: 21, kind: IsADirectory, message: \"Is a directory\" \x7d".toList
  | .invalidText =>
    "Error \x7b kind: InvalidData, message: \"stream did not contain valid UTF-8\" \x7d".toList
  | .other message =>
    "Custom \x7b kind: Other, error: ".toList ++ Text.quoted message ++ " \x7d".toList

end ReadFailure

namespace ParseError

def message : ParseError → Text
  | .duplicateName name => "Duplicated statement name: ".toList ++ Text.quoted name
  | .unreadable why => "I/O error: ".toList ++ why.message

/-- The error in full, as a program shows it that ends with it. -/
def inFull : ParseError → Text
  | .duplicateName name => "DuplicateName(".toList ++ Text.quoted name ++ [')']
  | .unreadable why => "Io(".toList ++ why.inFull ++ [')']

/-- The name that is used twice, if this is the error. -/
def duplicatedName? : ParseError → Option Text
  | .duplicateName name => some name
  | .unreadable _ => none

end ParseError

/-! ## Notices -/

/-- How much a listener wants to hear. The order of the levels is the order
of the constructors. -/
inductive Level where
  | off
  | error
  | warn
  | info
  | debug
  | trace
  deriving DecidableEq, Repr

def Level.rank : Level → Nat
  | .off => 0
  | .error => 1
  | .warn => 2
  | .info => 3
  | .debug => 4
  | .trace => 5

inductive Notice where
  /-- A line was taken, and this is its class. -/
  | classified (line : Line)
  /-- A tag stood outside every statement. -/
  | strayTag (key : Text)
  /-- Another statement was started before the end of this one. -/
  | abandoned (name : Text)
  /-- A statement was finished. -/
  | finished (name : Text) (ordinal : Nat) (kind : Kind)
  /-- The script ended before the end of this statement. -/
  | dropped (name : Text)
  /-- The script ended, with so many statements in all and in the two orders
  of running. -/
  | ended (size sequential concurrent : Nat)
  deriving DecidableEq, Repr

namespace Notice

def level : Notice → Level
  | .classified _ => .trace
  | .strayTag _ | .abandoned _ | .dropped _ => .warn
  | .finished _ _ _ | .ended _ _ _ => .debug

/-- A listener of level `l` hears the notice. -/
def isHeard (l : Level) (n : Notice) : Bool := n.level.rank ≤ l.rank

/-! ## The wording -/

def number (n : Nat) : Text := Nat.toDigits 10 n

/-- The class of a line as a notice shows it. -/
def lineText : Line → Text
  | .blank => "Blank".toList
  | .control => "Control".toList
  | .comment => "Comment".toList
  | .name value => "Name(".toList ++ Text.quoted value ++ [')']
  | .tag key value =>
    "Tag \x7b key: ".toList ++ Text.quoted key ++ ", value: ".toList ++ Text.quoted value ++
      " \x7d".toList
  | .fragment code => "Fragment(".toList ++ Text.quoted code ++ [')']
  | .terminated code => "Terminated(".toList ++ Text.quoted code ++ [')']

def message : Notice → Text
  | .classified line => "classified line: ".toList ++ lineText line
  | .strayTag key =>
    "ignoring tag ".toList ++ Text.quoted key ++ " outside of a named statement".toList
  | .abandoned name =>
    "statement ".toList ++ Text.quoted name ++ " abandoned before its terminator".toList
  | .finished name ordinal kind =>
    "statement ".toList ++ Text.quoted name ++ " #".toList ++ number ordinal ++
      " finalized as ".toList ++ kind.label
  | .dropped name =>
    "dropping unterminated statement ".toList ++ Text.quoted name ++ " at end of input".toList
  | .ended size sequential concurrent =>
    "froze ".toList ++ number size ++ " statements: ".toList ++ number sequential ++
      " sequential, ".toList ++ number concurrent ++ " concurrent-eligible".toList

end Notice

end NamedSql
