import DeckDump.Guid
import DeckDump.Text.Utf16

/-!
# Property values

A value is stored as its 16-bit type, two bytes of padding, and what the type asks for. The
common types are shown by their value; any other by its number. A value that is cut short is no
value.

* `readAt?_of_noType`: without its two type bytes nothing is a value
-/

namespace DeckDump.PropertySet

/-- The value of a property. -/
inductive Value
  | empty
  | int16 (n : Int16)
  | int32 (n : Int32)
  | uint32 (n : UInt32)
  | bool (b : Bool)
  /-- Text of single-byte characters. -/
  | narrow (text : String)
  /-- Text of 16-bit code units. -/
  | wide (text : String)
  | fileTime (n : UInt64)
  | blob (size : UInt32)
  | guid (g : Guid)
  | vector (element : UInt16) (count : UInt32)
  /-- A type that is not taken apart. -/
  | other (type : UInt16)
deriving DecidableEq

namespace Value

/-- The bit that marks a vector's type. -/
def vectorBit : UInt16 := 0x1000

/-- One character for each byte in front of the first zero byte. -/
def narrowText (b : Bytes) : String := String.ofList (b.untilZero.map fun c => Char.ofNat c.toNat)

/-- The value stored at `pos`. -/
def readAt? (b : Bytes) (pos : Nat) : Option Value := do
  let type ← b.u16At? pos
  let body := pos + 4
  if type = 0 ∨ type = 1 then return empty
  else if type = 2 then return int16 (← b.u16At? body).toInt16
  else if type = 3 then return int32 (← b.u32At? body).toInt32
  else if type = 11 then return bool ((← b.u16At? body) ≠ 0)
  else if type = 19 then return uint32 (← b.u32At? body)
  else if type = 30 then
    let size ← b.u32At? body
    return narrow (narrowText (← b.slice? (body + 4) size.toNat))
  else if type = 31 then
    let units ← b.u32At? body
    return wide (Utf16.textOf (← b.slice? (body + 4) (2 * units.toNat)))
  else if type = 64 then return fileTime (← b.u64At? body)
  else if type = 65 then return blob (← b.u32At? body)
  else if type = 72 then return guid (← b.guidAt? body)
  else if type &&& vectorBit ≠ 0 then return vector (type &&& ~~~vectorBit) (← b.u32At? body)
  else return other type

/-- What is shown of a value. -/
def text : Value → String
  | empty => "(empty)"
  | int16 n => Text.signedDecimal n.toInt
  | int32 n => Text.signedDecimal n.toInt
  | uint32 n => Text.decimal n.toNat
  | bool b => if b then "true" else "false"
  | narrow s => "\"" ++ s ++ "\""
  | wide s => "\"" ++ s ++ "\""
  | fileTime n => s!"FILETIME 0x{Text.hex 16 n.toNat}"
  | blob size => s!"(blob, {size.toNat} bytes)"
  | guid g => g.text
  | vector element count => s!"(vector of type 0x{Text.hex 4 element.toNat}, {count.toNat} elements)"
  | other type => s!"(unsupported type 0x{Text.hex 4 type.toNat})"

theorem readAt?_of_noType {b : Bytes} {pos : Nat} (h : b.u16At? pos = none) : readAt? b pos = none := by
  simp [readAt?, h]

end Value

end DeckDump.PropertySet
