import DeckDump.Proofs.Encoded
import DeckDump.Proofs.PropertySet.Value

/-!
# Writing property values

The types of values that a property set stores, the bytes of a value, and what is to be shown of it:

* `StoredValue`: a value of any of ten types, of a length that can be told;
* `StoredValue.bytes`, `StoredValue.padded`: its type and what follows it, and zeros up to a multiple of four bytes;
* `StoredValue.text`: what is shown of it;
* `readAt?_of_holdsAt`: that is what is read where its bytes stand.
-/

namespace DeckDump.PropertySet

/-- A value as it is stored. -/
inductive StoredValue
  | int16 (n : Int16)
  | int32 (n : Int32)
  | uint32 (n : UInt32)
  /-- True unless it is zero. -/
  | bool (n : UInt16)
  /-- Text of single-byte characters; any of them may be zero. -/
  | narrow (chars : List UInt8) (short : chars.length < 0x100000000)
  /-- Text of 16-bit code units; any of them may be zero. -/
  | wide (units : List UInt16) (short : units.length < 0x100000000)
  | fileTime (n : UInt64)
  | blob (content : List UInt8) (short : content.length < 0x100000000)
  | guid (g : Guid)
  /-- Elements of a type that is no vector's, and the bytes of all. -/
  | vector (element : UInt16) (plain : element &&& Value.vectorBit = 0) (count : UInt32) (elements : List UInt8)

namespace StoredValue

/-- The number of the type. -/
def type : StoredValue → UInt16
  | int16 _ => 2
  | int32 _ => 3
  | uint32 _ => 19
  | bool _ => 11
  | narrow .. => 30
  | wide .. => 31
  | fileTime _ => 64
  | blob .. => 65
  | guid _ => 72
  | vector element .. => Value.vectorBit ||| element

/-- What follows the type and its padding. -/
def body : StoredValue → List UInt8
  | int16 n => bytesOf16 n.toUInt16
  | int32 n => bytesOf32 n.toUInt32
  | uint32 n => bytesOf32 n
  | bool n => bytesOf16 n
  | narrow chars _ => bytesOf32 (UInt32.ofNat chars.length) ++ chars
  | wide units _ => bytesOf32 (UInt32.ofNat units.length) ++ units.flatMap bytesOf16
  | fileTime n => bytesOf64 n
  | blob content _ => bytesOf32 (UInt32.ofNat content.length) ++ content
  | guid g => g.toList
  | vector _ _ count elements => bytesOf32 count ++ elements

/-- The bytes of a value. -/
def bytes (v : StoredValue) : List UInt8 := bytesOf16 v.type ++ [0, 0] ++ v.body

/-- The bytes of a value with as many zeros behind them as make them words of four bytes. -/
def padded (v : StoredValue) : List UInt8 := v.bytes ++ List.replicate ((4 - v.bytes.length % 4) % 4) 0

/-- What is shown of a value. -/
def text : StoredValue → String
  | int16 n => Text.signedDecimal n.toInt
  | int32 n => Text.signedDecimal n.toInt
  | uint32 n => Text.decimal n.toNat
  | bool n => if n = 0 then "false" else "true"
  | narrow chars _ => "\"" ++ String.ofList ((chars.takeWhile (· ≠ 0)).map fun c => Char.ofNat c.toNat) ++ "\""
  | wide units _ => "\"" ++ Utf16.lossy (units.takeWhile (· ≠ 0)) ++ "\""
  | fileTime n => s!"FILETIME 0x{Text.hex 16 n.toNat}"
  | blob content _ => s!"(blob, {content.length} bytes)"
  | guid g => g.text
  | vector element _ count _ => s!"(vector of type 0x{Text.hex 4 element.toNat}, {count.toNat} elements)"

section

variable {b : Bytes} {pos : Nat}

/-- Counted parts are read behind their number. -/
theorem counted_of_holdsAt {n : Nat} {content : List UInt8} (short : n < 0x100000000)
    (h : b.HoldsAt pos (bytesOf32 (UInt32.ofNat n) ++ content)) :
    b.u32At? pos = some (UInt32.ofNat n) ∧ (UInt32.ofNat n).toNat = n ∧
      b.slice? (pos + 4) content.length = some content.toArray := by
  have inside := h.le_size (by simp [bytesOf32, bytesOf16])
  rw [List.length_append, length_bytesOf32] at inside
  obtain ⟨count, rest⟩ := Bytes.holdsAt_append.1 h
  rw [length_bytesOf32] at rest
  exact ⟨count.u32At?, UInt32.toNat_ofNat_of_lt short, rest.slice? (by omega)⟩

/-- The mark of a vector can be set beside a type that is none, and taken off again. -/
theorem vector_type {element : UInt16} (plain : element &&& Value.vectorBit = 0) :
    (Value.vectorBit ||| element) &&& Value.vectorBit ≠ 0 ∧
      (Value.vectorBit ||| element) &&& ~~~Value.vectorBit = element := by
  have apart (i : Nat) (h : i < 16) : (element.toBitVec[i] && Value.vectorBit.toBitVec[i]) = false := by
    have none_set := congrArg (·.toBitVec.getLsbD i) plain
    simpa [BitVec.getLsbD_eq_getElem h] using none_set
  have marked : (Value.vectorBit ||| element) &&& Value.vectorBit = Value.vectorBit := by
    refine UInt16.toBitVec_inj.1 (BitVec.eq_of_getElem_eq fun i h => ?_)
    rw [UInt16.toBitVec_and, UInt16.toBitVec_or, BitVec.getElem_and, BitVec.getElem_or]
    cases Value.vectorBit.toBitVec[i] <;> simp
  have unmarked : (Value.vectorBit ||| element) &&& ~~~Value.vectorBit = element := by
    refine UInt16.toBitVec_inj.1 (BitVec.eq_of_getElem_eq fun i h => ?_)
    have one := apart i h
    rw [UInt16.toBitVec_and, UInt16.toBitVec_or, UInt16.toBitVec_not, BitVec.getElem_and, BitVec.getElem_or,
      BitVec.getElem_not]
    cases bit : Value.vectorBit.toBitVec[i] <;> simp_all
  exact ⟨by rw [marked]; decide, unmarked⟩

/-- Where the bytes of a value stand, what is read shows as the value. -/
theorem readAt?_of_holdsAt {v : StoredValue} (h : b.HoldsAt pos v.bytes) :
    ∃ w, Value.readAt? b pos = some w ∧ w.text = v.text := by
  rw [bytes, Bytes.holdsAt_append, Bytes.holdsAt_append] at h
  obtain ⟨⟨type, -⟩, body⟩ := h
  replace type := type.u16At?
  change b.HoldsAt (pos + 4) v.body at body
  simp only [Value.readAt?_eq_some_iff]
  cases v with
  | int16 n => exact ⟨_, .int16 type body.u16At?, rfl⟩
  | int32 n => exact ⟨_, .int32 type body.u32At?, rfl⟩
  | uint32 n => exact ⟨_, .uint32 type body.u32At?, rfl⟩
  | bool n =>
    refine ⟨_, .bool type body.u16At?, ?_⟩
    show (if decide (n ≠ 0) then "true" else "false") = if n = 0 then "false" else "true"
    by_cases zero : n = 0 <;> simp [zero]
  | narrow chars short =>
    obtain ⟨count, number, cut⟩ := counted_of_holdsAt short body
    exact ⟨_, .narrow type count (number.symm ▸ cut), rfl⟩
  | wide units short =>
    obtain ⟨count, number, cut⟩ := counted_of_holdsAt short body
    rw [length_flatMap_of_length length_bytesOf16, Nat.mul_comm] at cut
    refine ⟨_, .wide type count (number.symm ▸ cut), ?_⟩
    show "\"" ++ Utf16.textOf _ ++ "\"" = _
    rw [Utf16.textOf, Bytes.words16_flatMap]
    rfl
  | fileTime n => exact ⟨_, .fileTime type body.u64At?, rfl⟩
  | blob content short =>
    obtain ⟨count, number, -⟩ := counted_of_holdsAt short body
    refine ⟨_, .blob type count, ?_⟩
    show s!"(blob, {(UInt32.ofNat content.length).toNat} bytes)" = _
    rw [number]
    rfl
  | guid g => exact ⟨_, .guid type body.guidAt?, rfl⟩
  | vector element plain count elements =>
    obtain ⟨marked, unmarked⟩ := vector_type plain
    refine ⟨_, .vector type marked (Bytes.holdsAt_append.1 body).1.u32At?, ?_⟩
    show (Value.vector ((Value.vectorBit ||| element) &&& _) count).text = _
    rw [unmarked]
    rfl

end

end StoredValue

end DeckDump.PropertySet
