import Webform.Command.Run

/-!
# The command

Reads the files that a request names, carries it out on their texts, and writes what it comes to.
-/

namespace Webform.Command

/-- Why the system could not read or write a file. -/
def faultOf : IO.Error → FileFault
  | .noFileOrDirectory .. => .noSuchFile
  | .inappropriateType _ code _ => if code = 21 then .isDirectory else .notDirectory
  | e => .other e.toString

/-- Reads a file. -/
def readPath (path : String) : IO (String × Except FileFault String) :=
  try
    return (path, .ok (← IO.FS.readFile path))
  catch e => return (path, .error (faultOf e))

/-- Stores what a request has written, if its ending is not changed by that. -/
def store (request : Request) (ending : Ending) (fs : Files) : IO Ending := do
  let some path := request.output? | return ending
  if ending.error.isSome then return ending
  match fs.read path with
  | .error _ => return ending
  | .ok text =>
    try
      IO.FS.writeFile path text
      return ending
    catch e => return .failure (.unwritten path (faultOf e))

end Webform.Command

open Webform.Command

def main (arguments : List String) : IO UInt32 := do
  let some request := Request.ofArguments? arguments
    | IO.eprint helpText
      return 2
  let fs := Files.ofReads (← request.inputs.mapM readPath)
  let (ending, fs) := run fs request
  let ending ← store request ending fs
  IO.print ending.output
  if let some e := ending.error then IO.eprint e.report
  return ending.code.toUInt32
