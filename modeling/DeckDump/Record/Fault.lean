import DeckDump.Record.Name

/-!
# What can be wrong with a record stream

The causes for which the records of a stream cannot be read to the end. All offsets but that of
a field are offsets in the stream.
-/

namespace DeckDump

/-- The deepest level of records that is entered. -/
def RecordStream.maxDepth : Nat := 64

/-- Why a record stream is refused. -/
inductive RecordFault
  /-- A container inside the deepest level that is entered. -/
  | tooDeep (offset : Nat)
  /-- Bytes behind the last record that are too few for a header. -/
  | trailingBytes (count offset : Nat)
  | unreadableHeader (offset : Nat)
  /-- A record that reaches behind the end of its parent. -/
  | overrun (type : RecordType) (offset : Nat) (claimed : UInt32) (remaining : Nat)
  /-- A field that reaches behind the end of its atom. -/
  | fieldTooShort (type : RecordType) (size wanted offset : Nat)
deriving DecidableEq, Repr

/-- The wording of a refused record stream. -/
def RecordFault.message : RecordFault → String
  | .tooDeep offset => s!"Containers nested deeper than {RecordStream.maxDepth} levels at offset {offset}"
  | .trailingBytes count offset =>
    s!"{count} trailing bytes at offset {offset} are too short for a record header"
  | .unreadableHeader offset => s!"Unreadable record header at offset {offset}"
  | .overrun type offset claimed remaining =>
    s!"{type.name} record at offset {offset} claims {claimed.toNat} bytes but only {remaining} remain"
  | .fieldTooShort type size wanted offset =>
    s!"{type.name} body is {size} bytes, too short to read {wanted} bytes at offset {offset}"

end DeckDump
