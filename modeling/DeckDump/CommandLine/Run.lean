import DeckDump.CommandLine.Parser
import DeckDump.CommandLine.Program
import DeckDump.Compound.Store.Reader
import DeckDump.Text.Terminal

/-!
# The program as it is built

A run of the program with the parser, the reader and the wording of log and errors that it comes with.
-/

namespace DeckDump.CommandLine

/-- An event as the log words it; each line but the first is indented. -/
def eventText (e : Event) : String :=
  indented ("[" ++ Text.padRight 5 ' ' e.level.label ++ " " ++ e.origin ++ "] " ++ e.message) ++ "\n"

/-- A log that shows events down to a level. What an event holds for a terminal is not shown, and
a command that does not end may take the end of the event's line with it. -/
def shownLog (l : Level) (events : List Event) : String :=
  String.join ((events.filter fun e => l.includes e.level).map fun e => Terminal.plain (eventText e))

/-- The causes of an error, numbered. -/
def numbered (causes : List String) : String :=
  String.join (causes.mapIdx fun i cause =>
    "\n" ++ Text.padLeft 5 ' ' (Text.decimal i) ++ ": " ++
      String.ofList (cause.toList.flatMap fun c => if c = '\n' then "\n       ".toList else [c]))

/-- The report of an error and of its causes; a single cause has no number. -/
def reportText : List String → String
  | [] => ""
  | [doing] => doing
  | [doing, cause] => doing ++ "\n\nCaused by:\n    " ++ indented cause
  | doing :: causes => doing ++ "\n\nCaused by:" ++ numbered causes

/-- What the program comes with. -/
def libraries : Libraries where
  parse := parse
  openReader := Compound.Store.openReader
  logText := shownLog
  report := reportText

/-- The path of the file that a command line asks to dump, if it asks for that. -/
def inputOf (args : List String) : Option String :=
  match parse (filterArguments (args.map Argument.text)).1 with
  | .args a => some a.input.display
  | .ended .. => none

/-- Runs the program on a command line; `read` gives the contents of a file or why it cannot be read. -/
def run (args : List String) (read : String → Except String Bytes) : Finished :=
  libraries.run (args.map Argument.text) fun input => read input.display

end DeckDump.CommandLine
