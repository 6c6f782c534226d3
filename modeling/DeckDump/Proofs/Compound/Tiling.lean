import DeckDump.Proofs.Compound.Difat

/-!
# Sectors tile the file

The number of sectors is computed from the size of a file, and the place of a sector from its number. The two agree:

* `Header.sectors`: the sectors of a file, cut out at their places;
* `flatMap_sectors`: one behind the other they are the bytes behind the header's own sector;
* `size_of_sector`: each has the size of a sector, but for the last one, which may be shorter and is not empty;
* `readSector_eq_ok_iff`: the sectors that can be read are those;
* `sectorStart_add_le`: their places need no more than 64 bits;
* `SectorTable.error_of_difatLists`, `SectorTable.error_of_load`: so a DIFAT sector that is inside the file can be
  read, and a sector that cannot is one that they list;
* `readSector_tiles`: all of this for a file whose header is accepted.
-/

namespace DeckDump.Compound

namespace Header

variable (h : Header) (data : Bytes)

/-- The sectors of a file, in order. -/
def sectors : List Bytes :=
  (List.range (h.sectorCount data.size)).map fun n =>
    data.extract ((n + 1) * h.sectorSize) ((n + 1) * h.sectorSize + h.sectorSize)

theorem length_sectors : (h.sectors data).length = h.sectorCount data.size := by
  rw [sectors, List.length_map, List.length_range]

theorem getElem?_sectors (id : SectorId) :
    (h.sectors data)[id.toNat]? = if id.toNat < h.sectorCount data.size then some (h.sectorBytes data id) else none := by
  rw [sectors, List.getElem?_map]
  by_cases inside : id.toNat < h.sectorCount data.size
  · rw [if_pos inside, List.getElem?_range inside]
    rfl
  · rw [if_neg inside, List.getElem?_eq_none (by rw [List.length_range]; omega)]
    rfl

/-- The sectors that can be read are those of the file. -/
theorem readSector_eq_ok_iff (id : SectorId) (bytes : Bytes) :
    readSector data h id = .ok bytes ↔ (h.sectors data)[id.toNat]? = some bytes := by
  rw [readSector_eq, getElem?_sectors]
  by_cases inside : id.toNat < h.sectorCount data.size
  · rw [if_pos inside, if_pos inside, Except.ok.injEq, Option.some.injEq]
  · rw [if_neg inside, if_neg inside]
    exact iff_of_false nofun nofun

theorem exists_readSector_iff (id : SectorId) :
    (∃ bytes, readSector data h id = .ok bytes) ↔ id.toNat < h.sectorCount data.size := by
  rw [readSector_eq]
  split
  · next inside => exact iff_of_true ⟨_, rfl⟩ inside
  · next outside => exact iff_of_false nofun outside

/-- The last sector reaches the end of the file. -/
theorem size_le_sectors_end : data.size ≤ h.sectorSize + h.sectorCount data.size * h.sectorSize := by
  have behind := mt (h.lt_sectorCount_iff (h.sectorCount data.size) data.size).2 (Nat.lt_irrefl _)
  rw [Nat.succ_mul] at behind
  omega

/-- The sectors one behind the other are the bytes behind the header's own sector. -/
theorem flatMap_sectors : (h.sectors data).flatMap Array.toList = (data.extract h.sectorSize data.size).toList := by
  have place (n : Nat) : (n + 1) * h.sectorSize = h.sectorSize + n * h.sectorSize := by
    rw [Nat.succ_mul, Nat.add_comm]
  rw [sectors, List.flatMap_map]
  simp only [place]
  rw [Bytes.flatMap_extract]
  -- the last sector may be cut short, so the places of the sectors end behind the end of the file
  rcases Nat.le_total data.size h.sectorSize with small | large
  · rw [Array.extract_empty_of_size_le_start small, Array.extract_empty_of_size_le_start small]
  · rw [Bytes.toList_extract_split data large (h.size_le_sectors_end data),
      Array.extract_empty_of_size_le_start (Nat.le_refl data.size)]
    exact List.append_nil _

/-- A sector in front of the last one has all its bytes, and the last one has some. -/
theorem size_of_sector {n : Nat} {bytes : Bytes} (at_n : (h.sectors data)[n]? = some bytes) :
    0 < bytes.size ∧ bytes.size ≤ h.sectorSize ∧ (n + 1 < h.sectorCount data.size → bytes.size = h.sectorSize) := by
  obtain ⟨inside, rfl⟩ := List.getElem?_eq_some_iff.1 at_n
  rw [length_sectors, lt_sectorCount_iff] at inside
  have pos := h.sectorSize_pos
  simp only [sectors, List.getElem_map, List.getElem_range, Array.size_extract]
  refine ⟨by omega, by omega, fun next => ?_⟩
  rw [lt_sectorCount_iff, Nat.succ_mul] at next
  omega

theorem sectorCount_le (fileSize : Nat) : h.sectorCount fileSize ≤ fileSize := by
  by_contra more
  have starts := (h.lt_sectorCount_iff fileSize fileSize).1 (Nat.not_le.1 more)
  have := Nat.le_mul_of_pos_right (fileSize + 1) h.sectorSize_pos
  omega

/-- The place of a sector, and what it is computed from, needs no more than 64 bits. -/
theorem sectorStart_add_le {h : Header} {data : Bytes} (parsed : parse data = .ok h) (id : SectorId) :
    id.toNat + 1 ≤ h.sectorStart id ∧ h.sectorStart id + h.sectorSize < UInt64.size := by
  have small := id.toNat_lt
  rw [sectorStart, UInt64.size]
  rcases sectorSize_of_parse parsed with size | size <;> rw [size] <;> omega

end Header

namespace SectorTable

theorem of_find?_beyond {data : Bytes} {header : Header} {ids : List SectorId} {id : SectorId}
    (met : ids.find? (beyond data header) = some id) : id ∈ ids ∧ header.sectorCount data.size ≤ id.toNat := by
  have outside : beyond data header id = true := List.find?_some met
  exact ⟨List.mem_of_find?_eq_some met, of_decide_eq_true outside⟩

/-- A DIFAT sector that is inside the file can be read, so only one that is not ends their reading. -/
theorem error_of_difatLists {data : Bytes} {header : Header} (aligned : 4 ∣ header.sectorSize) {limit : Nat}
    {sector : SectorId} {log : Log} {e : Error} (failed : (difatLists data header limit sector [] log).1 = .error e) :
    ∃ id, e = .table (.difatBeyondEnd id) ∧ header.sectorCount data.size ≤ id.toNat := by
  rw [fst_difatLists data header aligned limit sector [] (fun _ met => absurd met List.not_mem_nil)] at failed
  cases met : (difatFrom data header limit sector []).find? (beyond data header) with
  | none =>
    rw [met] at failed
    cases failed
  | some id =>
    rw [met] at failed
    cases failed
    exact ⟨id, rfl, (of_find?_beyond met).2⟩

/-- A table is not loaded because of a DIFAT sector that is behind the end of the file, or because of a sector that is
taken of those that they list. -/
theorem error_of_load {data : Bytes} {header : Header} (aligned : 4 ∣ header.sectorSize) {log : Log} {e : Error}
    (failed : (load data header log).1 = .error e) :
    (∃ id ∈ difatWalk data header, header.sectorCount data.size ≤ id.toNat ∧ e = .table (.difatBeyondEnd id)) ∨
    ∃ id ∈ (listed data header).take (header.sectorCount data.size), header.sectorCount data.size ≤ id.toNat ∧
      e = .table (.sectorBeyondEnd id (header.sectorStart id) data.size) := by
  rw [fst_load data header aligned] at failed
  cases met : (difatWalk data header).find? (beyond data header) with
  | some id =>
    rw [met] at failed
    cases failed
    obtain ⟨walked, outside⟩ := of_find?_beyond met
    exact .inl ⟨id, walked, outside, rfl⟩
  | none =>
    rw [met] at failed
    dsimp only at failed
    cases taken : ((listed data header).take (header.sectorCount data.size)).find? (beyond data header) with
    | some id =>
      rw [taken] at failed
      cases failed
      obtain ⟨listed, outside⟩ := of_find?_beyond taken
      exact .inr ⟨id, listed, outside, rfl⟩
    | none =>
      rw [taken] at failed
      cases failed

end SectorTable

open SectorTable (difatLists load difatWalk listed)

/-- The sectors that can be read are those that a file has by its size. One behind the other they are the bytes behind
the header's own sector, each as long as a sector but for the last one, which is not empty, and no place is behind
what 64 bits can say. So a table is never refused because a DIFAT sector inside the file cannot be read. -/
theorem readSector_tiles {data : Bytes} {h : Header} (parsed : Header.parse data = .ok h) :
    (∀ id, (∃ bytes, readSector data h id = .ok bytes) ↔ id.toNat < h.sectorCount data.size) ∧
    (∀ id bytes, readSector data h id = .ok bytes ↔ (h.sectors data)[id.toNat]? = some bytes) ∧
    (h.sectors data).length = h.sectorCount data.size ∧
    (h.sectors data).flatMap Array.toList = (data.extract h.sectorSize data.size).toList ∧
    (∀ n bytes, (h.sectors data)[n]? = some bytes → 0 < bytes.size ∧ bytes.size ≤ h.sectorSize ∧
      (n + 1 < h.sectorCount data.size → bytes.size = h.sectorSize)) ∧
    (∀ id, id.toNat + 1 ≤ h.sectorStart id ∧ h.sectorStart id + h.sectorSize < UInt64.size) ∧
    h.sectorCount data.size ≤ data.size ∧
    (∀ limit sector log e, (difatLists data h limit sector [] log).1 = .error e →
      ∃ id, e = .table (.difatBeyondEnd id) ∧ h.sectorCount data.size ≤ id.toNat) ∧
    ∀ log e, (load data h log).1 = .error e →
      (∃ id ∈ difatWalk data h, h.sectorCount data.size ≤ id.toNat ∧ e = .table (.difatBeyondEnd id)) ∨
      ∃ id ∈ (listed data h).take (h.sectorCount data.size), h.sectorCount data.size ≤ id.toNat ∧
        e = .table (.sectorBeyondEnd id (h.sectorStart id) data.size) := by
  have aligned : 4 ∣ h.sectorSize := Header.dvd_sectorSize parsed (by decide)
  exact ⟨h.exists_readSector_iff data, h.readSector_eq_ok_iff data, h.length_sectors data, h.flatMap_sectors data,
    fun _ _ => h.size_of_sector data, Header.sectorStart_add_le parsed, h.sectorCount_le data.size,
    fun _ _ _ _ => SectorTable.error_of_difatLists aligned, fun _ _ => SectorTable.error_of_load aligned⟩

/-- A file of a sector behind the header's own, and the first three bytes of another. -/
def threeBytesOver : Bytes := (Header.blank.encode ++ (List.replicate 512 7 ++ [1, 2, 3])).toArray

/-- The sector that is cut short is one of the file's, and what is behind it is not. -/
theorem readSector_tiles_cut :
    Header.parse threeBytesOver = .ok Header.blank ∧ (Header.blank.sectors threeBytesOver).length = 2 ∧
      (∃ bytes, readSector threeBytesOver Header.blank 1 = .ok bytes ∧ 0 < bytes.size) ∧
      ¬ ∃ bytes, readSector threeBytesOver Header.blank 2 = .ok bytes := by
  have parsed : Header.parse threeBytesOver = .ok Header.blank := Header.parse_append rfl rfl (by decide) _
  have size : threeBytesOver.size = 1027 := by
    rw [threeBytesOver, List.size_toArray, List.length_append, Header.length_encode, List.length_append,
      List.length_replicate]
    rfl
  obtain ⟨reads, stands, count, -, sizes, -⟩ := readSector_tiles parsed
  rw [size] at reads count
  obtain ⟨bytes, cut⟩ := (reads 1).2 (by decide)
  exact ⟨parsed, count.trans (by decide), ⟨bytes, cut, (sizes 1 bytes ((stands 1 bytes).1 cut)).1⟩,
    mt (reads 2).1 (by decide)⟩

end DeckDump.Compound
