import DeckDump.CommandLine.Argument
import DeckDump.Compound.Reader
import DeckDump.Log

/-!
# What the program takes from elsewhere

The program does not take its command line apart itself, does not read compound documents itself, and
leaves the wording of its log and of its last error to others. What it takes from them is a value here,
so that what is said of a run holds whoever provides it; what is known of them is a proposition.
-/

namespace DeckDump.CommandLine

/-- What a command line sets. -/
structure Args where
  input : Argument
  debug : Bool := false
  showSectorChain : Bool := false
  noStructOutput : Bool := false
  dumpText : Bool := false
deriving DecidableEq

/-- The configuration of the dump that a command line asks for. -/
def Args.config (a : Args) : Config :=
  let config : Config := {}
  (((config.set .debug a.debug).set .showSectorChain a.showSectorChain).set .noStructOutput a.noStructOutput).set
    .dumpText a.dumpText

/-- The level down to which the log is shown. -/
def Args.level (a : Args) : Level := if a.debug then .debug else .warn

/-- How taking a command line apart ends. -/
inductive Parsed
  | args (a : Args)
  /-- The program ends at once: with help, with its version, or because the command line is wrong. -/
  | ended (exitCode : Nat) (output : ByteArray) (errors : String)

/-- What the program takes from elsewhere. -/
structure Libraries where
  /-- Takes a command line apart. -/
  parse : List Argument → Parsed
  /-- Opens compound documents. -/
  openReader : Compound.Opener
  /-- What is written of the events noted so far when the log is shown down to a level. -/
  logText : Level → List Event → String
  /-- What is reported of an error: of what was being done, and then of each cause behind the one before. -/
  report : List String → String

/-- Text with four spaces after each line feed. -/
def indented (s : String) : String :=
  String.ofList (s.toList.flatMap fun c => if c = '\n' then "\n    ".toList else [c])

/-- Whether a text is one line of printable ASCII characters. -/
def IsPlain (s : String) : Prop := ∀ c ∈ s.toList, ' ' ≤ c ∧ c ≤ '~'

instance (s : String) : Decidable (IsPlain s) := List.decidableBAll _ s.toList

/-- What is known of the log and of reports, whoever words them. -/
structure Libraries.Documented (libs : Libraries) : Prop where
  /-- An event that is shown is written behind the ones before it, on a line that its message ends. -/
  logged : ∀ (l : Level) (before : List Event) (e : Event), l.includes e.level = true → IsPlain e.message →
    ∃ head, libs.logText l (before ++ [e]) = libs.logText l before ++ head ++ e.message ++ "\n"
  /-- A cause is reported, indented, behind what was being done. -/
  reported : ∀ doing cause, libs.report [doing, cause] = doing ++ "\n\nCaused by:\n    " ++ indented cause

end DeckDump.CommandLine
