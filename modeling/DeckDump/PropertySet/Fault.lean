import DeckDump.Text.Numeral

/-!
# What can be wrong with a property set

The causes for which a property set stream is refused. A property value is never one of them.
-/

namespace DeckDump

/-- Why a property set stream is refused. -/
inductive PropertySetFault
  | tooShort (size : Nat)
  | byteOrder (found : UInt16)
  /-- The table of sections reaches behind the end. -/
  | sectionTable (sections : Nat)
  /-- The size and count of a section reach behind the end. -/
  | sectionHeader (offset : Nat)
  /-- The property table of a section reaches behind the end. -/
  | propertyTable (entries offset : Nat)
deriving DecidableEq, Repr

/-- The wording of a refused property set stream. -/
def PropertySetFault.message : PropertySetFault → String
  | .tooShort size => s!"Stream too short for a property set header ({size} bytes, need 28)"
  | .byteOrder found => s!"Invalid byte order mark 0x{Text.hex 4 found.toNat}"
  | .sectionTable n => s!"Section table for {n} property sets runs past the end of the stream"
  | .sectionHeader offset => s!"Section header at offset {offset} runs past the end of the stream"
  | .propertyTable entries offset =>
    s!"Property table of {entries} entries at offset {offset} runs past the end of the stream"

end DeckDump
