import DeckDump.Text.Numeral
import DeckDump.Text.Printable

/-!
# Quoted text

Text between double quotes, with escapes for the quote, the backslash, the usual control
characters, and every character that has no visible form or extends the one in front of it.
-/

namespace DeckDump.Text

/-- The escape of a character by its code point. -/
def codePointEscape (c : Char) : List Char :=
  ['\\', 'u', '\x7b'] ++ Nat.toDigits 16 c.toNat ++ ['\x7d']

/-- One character inside quotes. -/
def quoteChar (c : Char) : List Char :=
  if c = '\x00' then ['\\', '0']
  else if c = '\t' then ['\\', 't']
  else if c = '\r' then ['\\', 'r']
  else if c = '\n' then ['\\', 'n']
  else if c = '\\' ∨ c = '"' then ['\\', c]
  else if isExtending c ∨ ¬ isPrintable c then codePointEscape c
  else [c]

/-- Text between quotes. -/
def quote (s : String) : String := String.ofList ('"' :: s.toList.flatMap quoteChar ++ ['"'])

end DeckDump.Text
