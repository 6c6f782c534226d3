import DeckDump.Compound.Header
import DeckDump.Proofs.Encoded

/-!
# Sectors

Where the sectors of a file are, and what is read of them, also of one that the end of the file cuts short:

* `lt_sectorCount_iff`: the sectors of a file are those that start in front of its end;
* `readSector_eq`: these, and no others, are read;
* `getElem?_sectorWords`: the words of a sector are those of the file at their places;
* `length_sectorWords_eq_iff`: a sector that is cut short has fewer of them, no other one;
* `sectorWords_of_holdsAt`: they are those that stand there.
-/

namespace DeckDump.Compound

namespace Header

variable (h : Header) (data : Bytes) (id : SectorId)

/-- Where a sector starts in a file. -/
def sectorStart : Nat := (id.toNat + 1) * h.sectorSize

/-- The bytes of a sector, as far as the file has them. -/
def sectorBytes : Bytes := data.extract (h.sectorStart id) (h.sectorStart id + h.sectorSize)

/-- Whether the file has all bytes of a sector. -/
def Whole : Prop := h.sectorStart id + h.sectorSize ≤ data.size

/-- The words of a sector; one that is cut short is left out. -/
def sectorWords : List UInt32 := (h.sectorBytes data id).words32

/-- The sectors of a file are those that start in front of its end. -/
theorem lt_sectorCount_iff (n fileSize : Nat) : n < h.sectorCount fileSize ↔ (n + 1) * h.sectorSize < fileSize := by
  rw [sectorCount, ← Nat.succ_le_iff, Nat.le_div_iff_mul_le h.sectorSize_pos, Nat.succ_mul]
  have pos := h.sectorSize_pos
  omega

theorem readSector_eq :
    readSector data h id = if id.toNat < h.sectorCount data.size then .ok (h.sectorBytes data id)
      else .error (.sectorBeyondEnd id (h.sectorStart id) data.size) := by
  simp only [readSector, h.lt_sectorCount_iff]
  by_cases inside : (id.toNat + 1) * h.sectorSize < data.size
  · rw [if_neg (by omega), if_pos inside]
    rfl
  · rw [if_pos (by omega), if_neg inside]
    rfl

theorem getElem?_sectorWords (k : Nat) :
    (h.sectorWords data id)[k]? =
      if k * 4 + 4 ≤ h.sectorSize then data.u32At? (h.sectorStart id + k * 4) else none := by
  rw [sectorWords, Bytes.getElem?_words32, sectorBytes]
  by_cases inside : k * 4 + 4 ≤ h.sectorSize
  · rw [if_pos inside, Bytes.u32At?_extract _ (by omega)]
  · rw [if_neg inside]
    refine Option.not_isSome_iff_eq_none.1 (mt (Bytes.u32At?_isSome _ _).1 ?_)
    simp only [Array.size_extract]
    omega

theorem length_sectorWords :
    (h.sectorWords data id).length = (min (h.sectorStart id + h.sectorSize) data.size - h.sectorStart id) / 4 := by
  rw [sectorWords, Bytes.words32, List.length_map, List.length_range, sectorBytes, Array.size_extract]

theorem length_sectorWords_le : (h.sectorWords data id).length ≤ h.sectorSize / 4 := by
  rw [length_sectorWords]
  exact Nat.div_le_div_right (by omega)

theorem length_words_le (ids : List SectorId) :
    (ids.flatMap (h.sectorWords data)).length ≤ ids.length * (h.sectorSize / 4) := by
  induction ids with
  | nil => exact Nat.zero_le _
  | cons id ids ih =>
    rw [List.flatMap_cons, List.length_append, List.length_cons, Nat.succ_mul, Nat.add_comm]
    exact Nat.add_le_add ih (h.length_sectorWords_le data id)

/-- Only a sector that the end of the file cuts short has fewer words. -/
theorem length_sectorWords_eq_iff {h : Header} (aligned : 4 ∣ h.sectorSize) {data : Bytes} {id : SectorId} :
    (h.sectorWords data id).length = h.sectorSize / 4 ↔ h.Whole data id := by
  have pos := h.sectorSize_pos
  rw [length_sectorWords, Whole]
  omega

/-- The words that stand at a sector are its words, if no other one does. -/
theorem sectorWords_of_holdsAt {h : Header} {data : Bytes} {id : SectorId} {words : List UInt32}
    (holds : data.HoldsAt (h.sectorStart id) (words.flatMap bytesOf32)) (fits : words.length * 4 ≤ h.sectorSize)
    (all : min (h.sectorStart id + h.sectorSize) data.size < h.sectorStart id + words.length * 4 + 4) :
    h.sectorWords data id = words :=
  holds.words32 (Nat.add_le_add_left fits _) all

end Header

end DeckDump.Compound
