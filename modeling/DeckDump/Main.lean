import DeckDump.CommandLine.Run

/-!
# The program

Reads the file that the command line names, runs the program on it and prints what that leaves.
-/

namespace DeckDump

/-- The wording of a file that cannot be read. -/
def readFailure : IO.Error → String
  | .noFileOrDirectory .. => "No such file or directory (os error 2)"
  | .permissionDenied .. => "Permission denied (os error 13)"
  | .inappropriateType _ 20 _ => "Not a directory (os error 20)"
  | .inappropriateType .. => "Is a directory (os error 21)"
  | e => toString e

/-- The contents of a file, or why it cannot be read. -/
def readInput (path : String) : IO (Except String Bytes) := do
  try
    let bytes ← IO.FS.readBinFile path
    return .ok bytes.data
  catch e => return .error (readFailure e)

end DeckDump

/-- Dumps the presentation that the command line names. -/
def main (args : List String) : IO UInt32 := do
  let args := "ppt-dump" :: args
  let contents ← match DeckDump.CommandLine.inputOf args with
    | some path => DeckDump.readInput path
    | none => pure (.ok #[])
  let finished := DeckDump.CommandLine.run args fun _ => contents
  let out ← IO.getStdout
  out.write finished.output
  out.flush
  let err ← IO.getStderr
  err.putStr finished.errors
  return UInt32.ofNat finished.exitCode
