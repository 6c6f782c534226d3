/-!
# Entry numbers

An entry of the directory is named by its place in the table, a 32-bit number. One of the highest
numbers is the link that leads nowhere; the others between it and the entries name nothing.
-/

namespace DeckDump.Compound

/-- The place of an entry in the directory, or a mark in its place. -/
abbrev EntryId := UInt32

/-- A number as a place in the table. -/
instance : Coe EntryId Nat := ⟨UInt32.toNat⟩

namespace EntryId

/-- The highest number of an entry. -/
def maxRegular : EntryId := 0xFFFFFFFA

/-- The link that leads nowhere. -/
def nowhere : EntryId := 0xFFFFFFFF

/-- Whether the number names an entry. -/
def isRegular (id : EntryId) : Bool := id ≤ maxRegular

/-- Whether the number may stand for a link. -/
def isLink (id : EntryId) : Bool := id == nowhere || id.isRegular

end EntryId

end DeckDump.Compound
