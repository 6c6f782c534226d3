import DeckDump.CommandLine.Arguments
import DeckDump.CommandLine.Library
import DeckDump.Compound.Document
import DeckDump.Dump.Walk

/-!
# Running the program

What one run of the program prints and how it exits, given its arguments, the contents of the file they name
and what it takes from elsewhere. Output is the dump and then the text; errors and the log go to the
other stream.
-/

namespace DeckDump.CommandLine

/-- What a run of the program leaves behind. -/
structure Finished where
  exitCode : Nat
  output : ByteArray := .empty
  /-- What was noted on the way. -/
  log : Log := #[]
  /-- The error stream: the log that is shown, then why the program gave up, if it did. -/
  errors : String := ""

/-- The log in front of all work on the file. -/
def startLog (a : Args) (dropped : List Argument) : List Event :=
  (dropped.map fun option => .unknownOption option.display) ++ [.dumping a.input.display a.config]

/-- Dumps an opened document and writes its text; what it writes goes to the session's sink. -/
def dumpDocument (d : Compound.Document) (config : Config) : Visit Unit DumpOutcome := do
  Attempt.within (Report.setMuted config.noStructOutput)
  let o ← Dump.run d.container (Dump.decoders config)
  Attempt.within Report.flush
  Attempt.within (Dump.emitText o config)
  return o

namespace Libraries

variable (libs : Libraries)

/-- A run that gives up for an error. -/
def giveUp (level : Level) (log : Log) (output : ByteArray) (causes : List String) : Finished :=
  { exitCode := 1, output, log, errors := libs.logText level log.toList ++ "Error: " ++ libs.report causes ++ "\n" }

/-- A run that comes to a verdict. -/
def judge (level : Level) (log : Log) (output : ByteArray) (o : DumpOutcome) : Finished :=
  let log := if o.succeeded then log else log.push .failure
  { exitCode := if o.succeeded then 0 else 1, output, log, errors := libs.logText level log.toList }

/-- Dumps the document that `a` names, of which `contents` are the bytes or why they cannot be read. -/
def dumpFile (a : Args) (dropped : List Argument) (contents : Except String Bytes) : Finished :=
  let log : Log := (startLog a dropped).toArray
  match contents with
  | .error reason => libs.giveUp a.level log .empty [s!"Failed to read {a.input.display}", reason]
  | .ok data =>
    match (Compound.Document.loadWith libs.openReader data a.config : Logged _) log with
    | (.error e, log) => libs.giveUp a.level log .empty (s!"Failed to open {a.input.display}" :: e.causes)
    | (.ok d, log) =>
      match dumpDocument d a.config ({ log }, ()) with
      | (.error e, s, _) => libs.giveUp a.level s.log s.sink.written e.causes
      | (.ok o, s, _) =>
        match Report.flush s with
        | (.error e, s) => libs.giveUp a.level s.log s.sink.written [e.detail]
        | (.ok (), s) => libs.judge a.level s.log s.sink.written o

/-- Runs the program on a command line; `read` gives the contents of a file or why it cannot be read. -/
def run (args : List Argument) (read : Argument → Except String Bytes) : Finished :=
  let (kept, dropped) := filterArguments args
  match libs.parse kept with
  | .ended exitCode output errors => { exitCode, output, errors }
  | .args a => libs.dumpFile a dropped (read a.input)

end Libraries

end DeckDump.CommandLine
