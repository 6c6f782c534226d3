import DeckDump.Bytes
import DeckDump.Report.Basic

/-!
# Containers

What a dump needs of a document: three summaries, the names of the entries, and the payload of an
entry by its name. Looking an entry up may change the state of what surrounds the dump.
-/

namespace DeckDump

/-- A named payload. -/
structure Entry where
  name : String
  bytes : Bytes
deriving DecidableEq, Inhabited

/-- A document as a dump sees it, among surroundings `ω`. -/
structure Container (ω : Type) where
  /-- Shows a summary of the file. -/
  showSummary : Report Unit
  showHeader : Report Unit
  showDirectory : Report Unit
  /-- The names of all entries, in the order of the directory. -/
  names : List String
  /-- The entry of a name, with its payload. -/
  lookup : String → StateM ω (Except Error Entry)

end DeckDump
