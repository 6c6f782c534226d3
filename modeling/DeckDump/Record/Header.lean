import DeckDump.Bytes
import DeckDump.Record.Name
import DeckDump.Text.Numeral

/-!
# Record headers

The eight bytes in front of every record: a word with the version in its low four bits and the
instance in the others, the type, and the length of the body.

* `readAt?_isSome`: a header is there iff its eight bytes are
-/

namespace DeckDump

/-- The header of a record. -/
structure RecordHeader where
  version : Fin 16
  inst : Fin 4096
  type : RecordType
  /-- How many bytes the body has. -/
  length : UInt32
deriving DecidableEq, Repr

namespace RecordHeader

/-- How many bytes a header has. -/
def size : Nat := 8

/-- The version of a record that holds records. -/
def containerVersion : Fin 16 := ⟨0xF, by decide⟩

/-- The version in a header's first word. -/
def versionOf (w : UInt16) : Fin 16 := ⟨w.toNat % 16, Nat.mod_lt _ (by decide)⟩

/-- The instance in a header's first word. -/
def instOf (w : UInt16) : Fin 4096 := ⟨w.toNat / 16, by have := w.toNat_lt; omega⟩

/-- The header at `offset`. -/
def readAt? (b : Bytes) (offset : Nat) : Option RecordHeader := do
  let first ← b.u16At? offset
  let type ← b.u16At? (offset + 2)
  let length ← b.u32At? (offset + 4)
  return ⟨versionOf first, instOf first, type, length⟩

/-- The bytes of a header. -/
def encode (h : RecordHeader) : List UInt8 :=
  bytesOf16 (UInt16.ofNat (h.version + 16 * h.inst)) ++ bytesOf16 h.type ++ bytesOf32 h.length

/-- Whether the record holds records. -/
def isContainer (h : RecordHeader) : Bool := h.version = containerVersion

/-- The name of the record's type. -/
def name (h : RecordHeader) : String := h.type.name

/-- What is shown of a header at `offset`. -/
def line (h : RecordHeader) (offset : Nat) : String :=
  s!"{h.name} (type: 0x{Text.hex 4 h.type.toNat}, ver: 0x{Text.hex 1 h.version.val}, " ++
    s!"instance: 0x{Text.hex 3 h.inst.val}, size: {h.length.toNat}, offset: {offset})"

theorem readAt?_isSome (b : Bytes) (i : Nat) : (readAt? b i).isSome = true ↔ i + size ≤ b.size := by
  have h₁ := b.u16At?_isSome i
  have h₂ := b.u16At?_isSome (i + 2)
  have h₃ := b.u32At?_isSome (i + 4)
  cases e₁ : b.u16At? i <;> cases e₂ : b.u16At? (i + 2) <;> cases e₃ : b.u32At? (i + 4) <;>
    simp_all [readAt?, size] <;> omega

theorem length_encode (h : RecordHeader) : h.encode.length = size := rfl

end RecordHeader

end DeckDump
