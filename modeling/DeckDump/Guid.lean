import DeckDump.Bytes
import DeckDump.Text.Numeral

/-!
# Identifiers

A 128-bit identifier as it is stored: its first three groups are little-endian words, so their
bytes are shown in reverse, and the others are shown in order.

* `ofBytes?_isSome`: an identifier is there iff its sixteen bytes are
-/

namespace DeckDump

/-- A stored identifier of sixteen bytes. -/
abbrev Guid := Vector UInt8 16

namespace Guid

/-- The identifier with all bytes zero. -/
def nil : Guid := Vector.replicate 16 0

/-- The bytes of `g` at the positions `is`, in hexadecimal. -/
def group (g : Guid) (is : List (Fin 16)) : String :=
  String.join (is.map fun i => Text.hexByte g[i])

/-- The five groups of the identifier, in upper-case hexadecimal. -/
def text (g : Guid) : String :=
  String.intercalate "-"
    [g.group [3, 2, 1, 0], g.group [5, 4], g.group [7, 6], g.group [8, 9], g.group [10, 11, 12, 13, 14, 15]]

end Guid

/-- The identifier at `offset`. -/
def Bytes.guidAt? (b : Bytes) (offset : Nat) : Option Guid :=
  if h : (b.extract offset (offset + 16)).size = 16 then some ⟨b.extract offset (offset + 16), h⟩ else none

theorem Bytes.guidAt?_isSome (b : Bytes) (i : Nat) : (b.guidAt? i).isSome = true ↔ i + 16 ≤ b.size := by
  simp only [guidAt?, Array.size_extract]
  split <;> simp <;> omega

end DeckDump
