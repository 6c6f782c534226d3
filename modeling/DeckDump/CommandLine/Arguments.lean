import DeckDump.CommandLine.Argument
import DeckDump.Config

/-!
# Arguments

Options that nobody knows are dropped in front of everything else. What stands behind a double dash is
kept, and so is an argument that is no text: neither is taken for an option.

* `filterOptions_length`: every argument is kept or dropped
-/

namespace DeckDump.CommandLine

/-- The long options that are no flags. -/
def plainOptions : List String := ["help", "version"]

/-- All long options, without their dashes. -/
def longOptions : List String := plainOptions ++ Flag.all.map Flag.option

/-- The letters of the short options. -/
def shortOptions : List Char := ['h', 'V']

/-- How the text of an argument is spelled. -/
inductive Spelling
  /-- Two dashes and a name, perhaps with a value behind an equals sign. -/
  | long (name : String) (value : Option String)
  /-- One dash and at least one letter. -/
  | short (letters : List Char)
  /-- Anything else. -/
  | input
deriving DecidableEq, Repr

/-- The text behind the first equals sign, if there is one. -/
def valuePart (cs : List Char) : Option String :=
  match cs.dropWhile (· ≠ '=') with
  | [] => none
  | _ :: value => some (String.ofList value)

/-- How a text is spelled as an argument. -/
def spelling (text : String) : Spelling :=
  match text.toList with
  | '-' :: '-' :: cs => .long (String.ofList (cs.takeWhile (· ≠ '='))) (valuePart cs)
  | '-' :: c :: cs => .short (c :: cs)
  | _ => .input

/-- Whether an argument is no option, or one that is known. -/
def isKnown (arg : Argument) : Bool :=
  match arg.text?.map spelling with
  | some (.long name _) => longOptions.contains name
  | some (.short letters) => letters.all shortOptions.contains
  | some .input | none => true

/-- The argument behind which everything is an input. -/
def endOfOptions : Argument := .text "--"

/-- Splits arguments into the ones that are kept and the options that nobody knows. -/
def filterOptions : List Argument → List Argument × List Argument
  | [] => ([], [])
  | arg :: rest =>
    if arg = endOfOptions then (arg :: rest, [])
    else
      let (kept, dropped) := filterOptions rest
      if isKnown arg then (arg :: kept, dropped) else (kept, arg :: dropped)

/-- Splits a command line; the name of the program in front is kept. -/
def filterArguments : List Argument → List Argument × List Argument
  | [] => ([], [])
  | program :: args =>
    let (kept, dropped) := filterOptions args
    (program :: kept, dropped)

theorem filterOptions_length (args : List Argument) :
    (filterOptions args).1.length + (filterOptions args).2.length = args.length := by
  induction args with
  | nil => rfl
  | cons arg rest ih =>
    simp only [filterOptions]
    split
    · simp
    · split <;> simp <;> omega

end DeckDump.CommandLine
