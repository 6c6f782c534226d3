import DeckDump.Text.Utf8

/-!
# Single arguments

An argument is what a system gives to a program: mostly a text, but any bytes can be one.
-/

namespace DeckDump.CommandLine

/-- An argument of a command line. -/
inductive Argument
  | text (s : String)
  /-- Bytes that are no text. -/
  | bytes (b : Bytes) (noText : String.fromUTF8? ⟨b⟩ = none)
deriving DecidableEq

namespace Argument

/-- The argument as a text, if it is one. -/
def text? : Argument → Option String
  | text s => some s
  | bytes .. => none

/-- How an argument is shown. -/
def display : Argument → String
  | text s => s
  | bytes b _ => Text.damagedUtf8 b

end Argument

end DeckDump.CommandLine
