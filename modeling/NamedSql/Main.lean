-- The command line: lists the script whose path is given.
import NamedSql.Listing

open NamedSql

/-- What stands at a path. -/
def sourceAt (path : String) : IO Source := do
  try
    let bytes ← IO.FS.readBinFile path
    return .content bytes.toList
  catch e =>
    match e with
    | .noFileOrDirectory .. => return .missing
    | .inappropriateType .. => return .directory
    | _ => return .closed e.toString.toList

def main (args : List String) : IO UInt32 := do
  let source ← sourceAt (args.head?.getD Listing.defaultPath)
  let outcome := Listing.run source
  IO.print (String.ofList outcome.output)
  IO.eprint (String.ofList outcome.errors)
  return outcome.status.toUInt32
