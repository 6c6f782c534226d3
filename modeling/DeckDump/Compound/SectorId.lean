import DeckDump.Text.Numeral

/-!
# Sector numbers

A sector is named by a 32-bit number. The highest numbers name no sector: they mark sectors of
the allocation tables, the end of a chain, and free sectors.

* `isRegular_iff`: which numbers name sectors
-/

namespace DeckDump.Compound

/-- The number of a sector, or a mark in its place. -/
abbrev SectorId := UInt32

namespace SectorId

/-- The highest number of a sector. -/
def maxRegular : SectorId := 0xFFFFFFFA

/-- Marks a sector that lists sectors of the allocation table. -/
def difatMark : SectorId := 0xFFFFFFFC

/-- Marks a sector of the allocation table. -/
def fatMark : SectorId := 0xFFFFFFFD

/-- Marks the end of a chain. -/
def endOfChain : SectorId := 0xFFFFFFFE

/-- Marks a free sector. -/
def free : SectorId := 0xFFFFFFFF

/-- Whether the number names a sector. -/
def isRegular (id : SectorId) : Bool := id ≤ maxRegular

/-- The text of a number: marks by name, the rest in decimal. -/
def text (id : SectorId) : String :=
  if id = difatMark then "DIFSECT"
  else if id = fatMark then "FATSECT"
  else if id = endOfChain then "ENDOFCHAIN"
  else if id = free then "FREESECT"
  else Text.decimal id.toNat

/-- The text of a list of sectors. -/
def listText (ids : List SectorId) : String :=
  if ids.isEmpty then "(none)" else String.intercalate ", " (ids.map fun id => Text.decimal id.toNat)

theorem isRegular_iff (id : SectorId) : isRegular id = true ↔ id.toNat < 0x100000000 - 5 := by
  simp only [isRegular, decide_eq_true_eq, UInt32.le_iff_toNat_le]
  change id.toNat ≤ 4294967290 ↔ id.toNat < 4294967291
  omega

end SectorId

end DeckDump.Compound
