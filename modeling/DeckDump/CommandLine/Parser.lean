import DeckDump.CommandLine.Arguments
import DeckDump.CommandLine.Library

/-!
# Taking a command line apart

The parser that the program comes with. What is kept of a command line must name one input. Arguments are taken from
left to right: the first that asks for help or for the version, or that is wrong, decides. Behind a double dash
everything is an input.
-/

namespace DeckDump.CommandLine

/-- The answer to a request for the version. -/
def versionText : String := "ppt-dump 0.1.0\n"

/-- The line that says how the program is called. -/
def usageLine : String := "Usage: ppt-dump [OPTIONS] <INPUT>"

/-- The lines that explain the program. -/
def helpLines : List String :=
  ["Dump the internal structure of PowerPoint 97-2003 files",
    "",
    usageLine,
    "",
    "Arguments:",
    "  <INPUT>  Input PowerPoint file (.ppt)",
    "",
    "Options:",
    "      --debug              Enable debug logging",
    "      --show-sector-chain  Print the FAT sector list and the directory and mini FAT chains",
    "      --no-struct-output   Suppress the structure dump",
    "      --dump-text          Print the text found in text atoms after the dump",
    "  -h, --help               Print help",
    "  -V, --version            Print version"]

/-- What is wrong with a command line. -/
inductive UsageFault
  | missingInput
  | emptyInput
  | secondInput (arg : String)
  | repeated (flag : Flag)
  | needlessValue (option value : String)
  | unknown (option : String)
deriving DecidableEq, Repr

namespace UsageFault

/-- The wording of a wrong command line. -/
def message : UsageFault → String
  | missingInput => "the following required arguments were not provided: <INPUT>"
  | emptyInput => "a value is required for '<INPUT>' but none was supplied"
  | secondInput arg => s!"unexpected argument '{arg}' found"
  | repeated flag => s!"the argument '--{flag.option}' cannot be used multiple times"
  | needlessValue option value => s!"unexpected value '{value}' for '--{option}' found; no more were expected"
  | unknown option => s!"unexpected argument '{option}' found"

/-- The report of a wrong command line. -/
def text (fault : UsageFault) : String :=
  s!"error: {fault.message}\n\n{usageLine}\n\nFor more information, try '--help'.\n"

end UsageFault

/-- What a command line asks for. -/
inductive Request
  | help
  | version
  | dump (input : Argument) (config : Config)
  | refused (fault : UsageFault)

/-- What has been taken from the arguments so far. -/
structure Taken where
  input : Option Argument := none
  config : Config := {}

/-- Takes an input. -/
def Taken.takeInput (t : Taken) (arg : Argument) : Except UsageFault Taken :=
  if t.input.isSome then .error (.secondInput arg.display)
  else if arg = .text "" then .error .emptyInput
  else .ok { t with input := some arg }

/-- Takes a flag. -/
def Taken.takeFlag (t : Taken) (flag : Flag) : Except UsageFault Taken :=
  if t.config.get flag then .error (.repeated flag) else .ok { t with config := t.config.set flag true }

/-- What the arguments ask for that were taken to the end. -/
def Taken.finish (t : Taken) : Request :=
  match t.input with
  | some input => .dump input t.config
  | none => .refused .missingInput

/-- Takes inputs only. -/
def interpretInputs (t : Taken) : List Argument → Request
  | [] => t.finish
  | arg :: rest =>
    match t.takeInput arg with
    | .error fault => .refused fault
    | .ok t => interpretInputs t rest

/-- What the first of some short options asks for. -/
def shortRequest (letters : List Char) : Request :=
  match letters with
  | 'h' :: _ => .help
  | 'V' :: _ => .version
  | letters => .refused (.unknown s!"-{String.ofList (letters.take 1)}")

/-- What the arguments behind the program's name ask for. Of one that is no text the shown text is spelled out:
its dashes are there. -/
def interpretFrom (t : Taken) : List Argument → Request
  | [] => t.finish
  | arg :: rest =>
    if arg = endOfOptions then interpretInputs t rest
    else
      match spelling arg.display with
      | .input =>
        match t.takeInput arg with
        | .error fault => .refused fault
        | .ok t => interpretFrom t rest
      | .short letters => shortRequest letters
      | .long name (some value) => .refused (.needlessValue name value)
      | .long name none =>
        if name = "help" then .help
        else if name = "version" then .version
        else
          match Flag.all.find? (·.option = name) with
          | none => .refused (.unknown s!"--{name}")
          | some flag =>
            match t.takeFlag flag with
            | .error fault => .refused fault
            | .ok t => interpretFrom t rest

/-- Takes a filtered command line apart. -/
def parse (kept : List Argument) : Parsed :=
  match interpretFrom {} kept.tail with
  | .help => .ended 0 (String.join (helpLines.map (· ++ "\n"))).toUTF8 ""
  | .version => .ended 0 versionText.toUTF8 ""
  | .refused fault => .ended 2 .empty fault.text
  | .dump input config =>
    .args ⟨input, config.debug, config.showSectorChain, config.noStructOutput, config.dumpText⟩

end DeckDump.CommandLine
