/-!
# Bytes

A byte string and the little-endian words in it. A read names the offset of its first byte and
gives nothing when a byte it needs lies behind the end.

* `u16At?_isSome`, `u32At?_isSome`, `u64At?_isSome`: a word is there iff all its bytes are
* `size_slice?`: a slice has the length asked for
* `length_chunks`, `length_pieces`: how many full chunks, and how many pieces, there are
-/

namespace DeckDump

/-- The contents of a file, a stream or a part of one. -/
abbrev Bytes := Array UInt8

/-- The 16-bit word with low byte `lo` and high byte `hi`. -/
def word16 (lo hi : UInt8) : UInt16 := UInt16.ofNat (lo.toNat + 0x100 * hi.toNat)

/-- The 32-bit word with low half `lo` and high half `hi`. -/
def word32 (lo hi : UInt16) : UInt32 := UInt32.ofNat (lo.toNat + 0x10000 * hi.toNat)

/-- The 64-bit word with low half `lo` and high half `hi`. -/
def word64 (lo hi : UInt32) : UInt64 := UInt64.ofNat (lo.toNat + 0x100000000 * hi.toNat)

/-- The two bytes of a 16-bit word, low byte first. -/
def bytesOf16 (w : UInt16) : List UInt8 := [UInt8.ofNat w.toNat, UInt8.ofNat (w.toNat / 0x100)]

/-- The four bytes of a 32-bit word, low byte first. -/
def bytesOf32 (w : UInt32) : List UInt8 :=
  bytesOf16 (UInt16.ofNat w.toNat) ++ bytesOf16 (UInt16.ofNat (w.toNat / 0x10000))

/-- The eight bytes of a 64-bit word, low byte first. -/
def bytesOf64 (w : UInt64) : List UInt8 :=
  bytesOf32 (UInt32.ofNat w.toNat) ++ bytesOf32 (UInt32.ofNat (w.toNat / 0x100000000))

namespace Bytes

/-- The 16-bit word at `offset`. -/
def u16At? (b : Bytes) (offset : Nat) : Option UInt16 := do
  let lo ← b[offset]?
  let hi ← b[offset + 1]?
  return word16 lo hi

/-- The 32-bit word at `offset`. -/
def u32At? (b : Bytes) (offset : Nat) : Option UInt32 := do
  let lo ← u16At? b offset
  let hi ← u16At? b (offset + 2)
  return word32 lo hi

/-- The 64-bit word at `offset`. -/
def u64At? (b : Bytes) (offset : Nat) : Option UInt64 := do
  let lo ← u32At? b offset
  let hi ← u32At? b (offset + 4)
  return word64 lo hi

/-- The `length` bytes from `offset` on. -/
def slice? (b : Bytes) (offset length : Nat) : Option Bytes :=
  if offset + length ≤ b.size then some (b.extract offset (offset + length)) else none

/-- The bytes in front of the first zero byte. -/
def untilZero (b : Bytes) : List UInt8 := b.toList.takeWhile (· ≠ 0)

/-- The consecutive chunks of exactly `n` bytes; a shorter rest is left out. -/
def chunks (n : Nat) (b : Bytes) : List Bytes :=
  (List.range (b.size / n)).map fun i => b.extract (i * n) (i * n + n)

/-- The consecutive pieces of `n` bytes; the last one may be shorter. -/
def pieces (n : Nat) (b : Bytes) : List Bytes :=
  (List.range ((b.size + n - 1) / n)).map fun i => b.extract (i * n) (i * n + n)

/-- The 16-bit words of `b`; a single byte at the end is left out. -/
def words16 (b : Bytes) : List UInt16 :=
  (List.range (b.size / 2)).map fun i => (b.u16At? (i * 2)).getD 0

/-- The 32-bit words of `b`; an incomplete one at the end is left out. -/
def words32 (b : Bytes) : List UInt32 :=
  (List.range (b.size / 4)).map fun i => (b.u32At? (i * 4)).getD 0

theorem u16At?_isSome (b : Bytes) (i : Nat) : (b.u16At? i).isSome = true ↔ i + 2 ≤ b.size := by
  by_cases h : i + 1 < b.size
  · have h' : i < b.size := by omega
    simp [u16At?, h, h']
    omega
  · by_cases h' : i < b.size <;> simp [u16At?, h, h'] <;> omega

theorem u32At?_isSome (b : Bytes) (i : Nat) : (b.u32At? i).isSome = true ↔ i + 4 ≤ b.size := by
  have h₁ := u16At?_isSome b i
  have h₂ := u16At?_isSome b (i + 2)
  cases e₁ : b.u16At? i <;> cases e₂ : b.u16At? (i + 2) <;> grind [u32At?]

theorem u64At?_isSome (b : Bytes) (i : Nat) : (b.u64At? i).isSome = true ↔ i + 8 ≤ b.size := by
  have h₁ := u32At?_isSome b i
  have h₂ := u32At?_isSome b (i + 4)
  cases e₁ : b.u32At? i <;> cases e₂ : b.u32At? (i + 4) <;> grind [u64At?]

theorem size_slice? {b s : Bytes} {i n : Nat} (h : b.slice? i n = some s) : s.size = n := by
  simp only [slice?] at h
  split at h
  · injection h with h
    subst h
    simp
    omega
  · simp at h

theorem length_chunks (n : Nat) (b : Bytes) : (b.chunks n).length = b.size / n := by
  simp [chunks]

theorem length_pieces (n : Nat) (b : Bytes) : (b.pieces n).length = (b.size + n - 1) / n := by
  simp [pieces]

end Bytes

end DeckDump
