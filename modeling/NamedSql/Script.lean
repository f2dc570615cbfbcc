-- Reading a whole script, given as a text, as lines, as reads or as a file. All
-- ways put the statements together in the same manner, and the first line that
-- is refused or cannot be read decides. The lines of reads do not depend on where
-- the pieces are cut, and a read that fails costs the line that it interrupts.
import NamedSql.Assembly

namespace NamedSql

/-- The outcome of one read. -/
inductive Read where
  | bytes (piece : List UInt8)
  /-- Nothing was read, and the read is to be repeated. -/
  | interrupted
  | failed (why : ReadFailure)
  deriving DecidableEq, Repr

namespace Read

/-! ## Lines from reads -/

/-- The byte of a line feed. -/
def lineFeed : UInt8 := 10

def decodeLine (bytes : List UInt8) : Except ReadFailure Text :=
  match Text.decode? bytes with
  | some line => .ok line
  | none => .error .invalidText

/-- A line that a line feed ended. -/
def decodeEnded (bytes : List UInt8) : Except ReadFailure Text :=
  (decodeLine bytes).map Text.dropReturn

/-- The lines of the reads, where `part` has been read of the first line. Nothing
comes after a failure. -/
def linesFrom (part : List UInt8) : List Read → List (Except ReadFailure Text)
  | [] => if part.isEmpty then [] else [decodeLine part]
  | .interrupted :: rest => linesFrom part rest
  | .failed why :: _ => [.error why]
  | .bytes piece :: rest =>
    let (ended, left) := Text.cutAt lineFeed (part ++ piece)
    ended.map decodeEnded ++ linesFrom left rest

/-- The lines of the reads, one after the other. -/
def lines (reads : List Read) : List (Except ReadFailure Text) := linesFrom [] reads

/-! ## The reads seen all at once -/

/-- All bytes that are read before the first failure. -/
def content : List Read → List UInt8
  | [] | .failed _ :: _ => []
  | .interrupted :: rest => content rest
  | .bytes piece :: rest => piece ++ content rest

/-- The first failure. -/
def failure? : List Read → Option ReadFailure
  | [] => none
  | .failed why :: _ => some why
  | .interrupted :: rest | .bytes _ :: rest => failure? rest

end Read

/-! ## Files -/

/-- What stands at the path of a script. -/
inductive Source where
  | missing
  | directory
  | content (bytes : List UInt8)
  /-- Something that cannot be opened for another reason. -/
  | closed (message : Text)
  deriving DecidableEq, Repr

/-- The reads of a source, if it can be opened. A directory can be opened
but not read. -/
def Source.reads : Source → Except ReadFailure (List Read)
  | .missing => .error .notFound
  | .directory => .ok [.failed .isDirectory]
  | .content bytes => .ok [.bytes bytes]
  | .closed message => .error (.other message)

/-! ## Scripts -/

namespace Script

/-- The statements of a script given line by line. -/
def parseLines (lines : List Text) : Except ParseError Catalog :=
  (Assembly.start.takeAll lines).map Assembly.catalog

/-- The statements of a script. -/
def parse (script : Text) : Except ParseError Catalog := parseLines (Text.lines script)

/-- All that is noticed while the statements of a script are put together. -/
def logLines (lines : List Text) : List Notice := Assembly.start.log lines

/-- What a listener of this level hears of a script. -/
def heard (level : Level) (script : Text) : List Notice :=
  (logLines (Text.lines script)).filter (Notice.isHeard level)

/-- Takes a line that may not have been readable. -/
def takeRead (a : Assembly) : Except ReadFailure Text → Except ParseError Assembly
  | .ok line => a.take line
  | .error why => .error (.unreadable why)

/-- The statements of a script given by reads. -/
def parseReads (reads : List Read) : Except ParseError Catalog :=
  ((Read.lines reads).foldlM takeRead Assembly.start).map Assembly.catalog

/-- The statements of the script at some path. -/
def parseSource (source : Source) : Except ParseError Catalog :=
  match source.reads with
  | .ok reads => parseReads reads
  | .error why => .error (.unreadable why)

end Script

/-- The catalog that a text stands for, where texts are turned into values. -/
def Catalog.ofText (text : Text) : Except ParseError Catalog := Script.parse text

end NamedSql
