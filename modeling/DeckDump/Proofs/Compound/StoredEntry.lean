import DeckDump.Proofs.Compound.Difat
import DeckDump.Proofs.Compound.Reachable
import Mathlib.Data.List.Basic

/-!
# Stored entries

The directory is stored in slots of 128 bytes, in the sectors of a chain. What is read of it:

* `StoredEntry`: the fields of an entry are those stored at an offset;
* `storedEntry_parse`: so are those of an entry that is read from a slot;
* `getElem?_parseEntries`: the number of an entry says which slot of which sector it is read from;
* `rootFirst_iff`: when the first one is the root's;
* `sameButPaths_resolvePaths`: giving entries their paths leaves the rest as it is;
* `fst_read`: what reading comes to;
* `read_stored`: when a directory is read, and what its entries are.
-/

namespace DeckDump.Compound

/-- The fields of an entry, its path apart, are those stored at `offset` in a file of version `major`. -/
structure StoredEntry (data : Bytes) (major : UInt16) (offset : Nat) (e : DirectoryEntry) : Prop where
  /-- The name is the text of the bytes that its length counts, 64 at most. -/
  name : ∃ n, data.u16At? (offset + 0x40) = some n ∧
    e.name = Utf16.textOf (data.extract offset (offset + min n.toNat 64))
  type : ∃ b, data[offset + 0x42]? = some b ∧ e.type = ObjectType.ofByte b
  left : data.u32At? (offset + 0x44) = some e.left
  right : data.u32At? (offset + 0x48) = some e.right
  child : data.u32At? (offset + 0x4C) = some e.child
  clsid : data.guidAt? (offset + 0x50) = some e.clsid
  stateBits : data.u32At? (offset + 0x60) = some e.stateBits
  /-- The size is the low half of its field in version 3. -/
  size : ∃ n, data.u64At? (offset + 0x78) = some n ∧
    e.size = if major = 3 then UInt64.ofNat (n.toNat % 0x100000000) else n

theorem StoredEntry.withPath {data : Bytes} {major : UInt16} {offset : Nat} {e : DirectoryEntry}
    (h : StoredEntry data major offset e) (path : Option Path) :
    StoredEntry data major offset { e with path := path } := { h with }

theorem ofByte_eq_root_iff (b : UInt8) : ObjectType.ofByte b = .root ↔ b = 5 := by
  grind [ObjectType.ofByte]

/-- What is read from a slot is stored there. -/
theorem storedEntry_parse {data : Bytes} {offset : Nat} (inside : offset + 128 ≤ data.size) (id : EntryId)
    (major : UInt16) :
    StoredEntry data major offset (DirectoryEntry.parse id (data.extract offset (offset + 128)) major) := by
  have word {i : Nat} (le : i + 4 ≤ 128) (other : UInt32) : data.u32At? (offset + i) =
      some ((Bytes.u32At? (data.extract offset (offset + 128)) i).getD other) := by
    rw [Bytes.u32At?_extract data (by omega)]
    exact eq_some_getD ((Bytes.u32At?_isSome _ _).2 (by omega)) other
  constructor
  case name =>
    obtain ⟨n, found⟩ := Option.isSome_iff_exists.1 ((Bytes.u16At?_isSome data (offset + 0x40)).2 (by omega))
    have used : DirectoryEntry.nameBytes (data.extract offset (offset + 128)) = min n.toNat 64 := by
      rw [DirectoryEntry.nameBytes, Bytes.u16At?_extract data (by omega), found, Option.getD_some]
    refine ⟨n, found, ?_⟩
    show Utf16.textOf ((data.extract offset (offset + 128)).extract 0 (DirectoryEntry.nameBytes _)) = _
    rw [used, Array.extract_extract, Nat.add_zero, Nat.min_eq_left (by omega)]
  case type =>
    refine ⟨data[offset + 0x42], Array.getElem?_eq_getElem (by omega), congrArg ObjectType.ofByte ?_⟩
    rw [Array.getD_eq_getD_getElem?, Bytes.getElem?_extract_of_lt data (by omega),
      Array.getElem?_eq_getElem (by omega), Option.getD_some]
  case left => exact word (by decide) _
  case right => exact word (by decide) _
  case child => exact word (by decide) _
  case stateBits => exact word (by decide) _
  case clsid =>
    rw [← Bytes.guidAt?_extract data (show offset + 0x50 + 16 ≤ offset + 128 by omega)]
    exact eq_some_getD ((Bytes.guidAt?_isSome _ _).2 (by rw [Array.size_extract]; omega)) Guid.nil
  case size =>
    obtain ⟨n, found⟩ := Option.isSome_iff_exists.1 ((Bytes.u64At?_isSome data (offset + 0x78)).2 (by omega))
    refine ⟨n, found, ?_⟩
    show DirectoryEntry.sizeField _ major = _
    rw [DirectoryEntry.sizeField, Bytes.u64At?_extract data (by omega), found, Option.getD_some]

namespace Header

variable (h : Header) (data : Bytes) (id : SectorId)

/-- How many slots a sector has. -/
def perSector : Nat := h.sectorSize / 128

/-- Where slot number `k` of a sector starts in a file. -/
def slotStart (k : Nat) : Nat := h.sectorStart id + k * 128

/-- The slots of a sector. -/
def slots : List Bytes :=
  (List.range h.perSector).map fun k => data.extract (h.slotStart id k) (h.slotStart id k + 128)

theorem length_slots : (h.slots data id).length = h.perSector := by
  rw [slots, List.length_map, List.length_range]

variable {h data id}

theorem perSector_pos (aligned : 128 ∣ h.sectorSize) : 0 < h.perSector :=
  Nat.div_pos (Nat.le_of_dvd h.sectorSize_pos aligned) (by decide)

/-- The slots of a whole sector are inside the file. -/
theorem slot_inside (whole : h.Whole data id) {k : Nat} (inside : k < h.perSector) :
    h.slotStart id k + 128 ≤ data.size := by
  have last := (Nat.lt_div_iff_mul_lt (by decide)).1 inside
  have all : h.sectorStart id + h.sectorSize ≤ data.size := whole
  rw [slotStart]
  omega

theorem chunks_sectorBytes (whole : h.Whole data id) : Bytes.chunks 128 (h.sectorBytes data id) = h.slots data id := by
  rw [Bytes.chunks, sectorBytes, Array.size_extract, Nat.min_eq_left whole, Nat.add_sub_cancel_left, slots, perSector]
  refine List.map_congr_left fun k inside => ?_
  have last := (Nat.lt_div_iff_mul_lt (by decide)).1 (List.mem_range.1 inside)
  rw [Array.extract_extract, Nat.min_eq_left (by omega), slotStart, Nat.add_assoc]

end Header

namespace Directory

open SectorTable (beyond beyond_iff)

/-! ## Slots -/

section

variable {data : Bytes} {header : Header} {chain : List SectorId}

theorem slots_of_whole (whole : ∀ id ∈ chain, header.Whole data id) :
    (chain.map (header.sectorBytes data)).flatMap (·.chunks DirectoryEntry.byteSize) =
      chain.flatMap (header.slots data) := by
  rw [List.flatMap_map]
  exact List.flatMap_congr fun id mem => Header.chunks_sectorBytes (whole id mem)

theorem size_parseEntries (whole : ∀ id ∈ chain, header.Whole data id) (major : UInt16) :
    (parseEntries (chain.map (header.sectorBytes data)) major).size = chain.length * header.perSector := by
  rw [parseEntries, slots_of_whole whole, List.size_toArray, List.length_mapIdx,
    length_flatMap_of_length (header.length_slots data)]

variable (aligned : 128 ∣ header.sectorSize) (whole : ∀ id ∈ chain, header.Whole data id)

include aligned whole

/-- The number of an entry says which slot of which sector it is read from. -/
theorem getElem?_parseEntries (major : UInt16) {i : Nat} {id : SectorId}
    (sector : chain[i / header.perSector]? = some id) :
    let start := header.slotStart id (i % header.perSector)
    (parseEntries (chain.map (header.sectorBytes data)) major)[i]? =
      some (DirectoryEntry.parse (UInt32.ofNat i) (data.extract start (start + 128)) major) := by
  intro start
  have slot : (header.slots data id)[i % header.perSector]? = some (data.extract start (start + 128)) := by
    rw [Header.slots, List.getElem?_map, List.getElem?_range (Nat.mod_lt i (Header.perSector_pos aligned)),
      Option.map_some]
  rw [parseEntries, slots_of_whole whole, List.getElem?_toArray, List.getElem?_mapIdx,
    getElem?_flatMap_of_length (header.length_slots data) sector slot, Option.map_some]

/-- Each entry has the fields stored in its slot. -/
theorem stored_parseEntries {major : UInt16} {i : Nat} {e : DirectoryEntry}
    (at_i : (parseEntries (chain.map (header.sectorBytes data)) major)[i]? = some e) :
    e.id = UInt32.ofNat i ∧ ∃ id, chain[i / header.perSector]? = some id ∧
      StoredEntry data major (header.slotStart id (i % header.perSector)) e := by
  have pos := Header.perSector_pos aligned
  have inside : i / header.perSector < chain.length := by
    have within := (Array.getElem?_eq_some_iff.1 at_i).1
    rw [size_parseEntries whole] at within
    exact (Nat.div_lt_iff_lt_mul pos).2 within
  have sector := List.getElem?_eq_getElem inside
  rw [getElem?_parseEntries aligned whole major sector] at at_i
  obtain rfl := Option.some.inj at_i
  have slot := Header.slot_inside (whole _ (List.getElem_mem inside)) (Nat.mod_lt i pos)
  exact ⟨rfl, _, sector, storedEntry_parse slot _ major⟩

/-- The first entry is the root's iff the type byte of the first slot says so. -/
theorem rootFirst_iff (major : UInt16) :
    (parseEntries (chain.map (header.sectorBytes data)) major)[0]?.map (·.type) = some .root ↔
      ∃ first, chain.head? = some first ∧ data[header.sectorStart first + 0x42]? = some 5 := by
  have slot {id : SectorId} {e : DirectoryEntry} (sector : chain[0]? = some id)
      (at_0 : (parseEntries (chain.map (header.sectorBytes data)) major)[0]? = some e) :
      ∃ b, data[header.sectorStart id + 0x42]? = some b ∧ e.type = ObjectType.ofByte b := by
    obtain ⟨-, id', sector', stored⟩ := stored_parseEntries aligned whole at_0
    rw [Nat.zero_div, sector] at sector'
    obtain rfl := Option.some.inj sector'
    have type := stored.type
    rwa [Nat.zero_mod, Header.slotStart, Nat.zero_mul, Nat.add_zero] at type
  rw [Option.map_eq_some_iff, List.head?_eq_getElem?]
  constructor
  · rintro ⟨e, at_0, root⟩
    obtain ⟨-, id, sector, -⟩ := stored_parseEntries aligned whole at_0
    rw [Nat.zero_div] at sector
    obtain ⟨b, byte, type⟩ := slot sector at_0
    obtain rfl := (ofByte_eq_root_iff b).1 (type.symm.trans root)
    exact ⟨id, sector, byte⟩
  · rintro ⟨first, sector, byte⟩
    have at_0 := getElem?_parseEntries aligned whole major (i := 0) ((Nat.zero_div _).symm ▸ sector)
    obtain ⟨b, found, type⟩ := slot sector at_0
    obtain rfl := Option.some.inj (byte.symm.trans found)
    exact ⟨_, at_0, type⟩

omit aligned whole

/-- The sectors of a chain, unless one of those is behind the end of the file. -/
theorem readSectors_eq (ids : List SectorId) :
    readSectors data header ids =
      match ids.find? (beyond data header) with
      | some id => .error (.sectorBeyondEnd id (header.sectorStart id) data.size)
      | none => .ok (ids.map (header.sectorBytes data)) := by
  induction ids with
  | nil => rfl
  | cons id ids ih =>
    rw [readSectors, List.mapM_cons, header.readSector_eq]
    by_cases out : beyond data header id = true
    · rw [List.find?_cons_of_pos out, if_neg (Nat.not_lt.2 (of_decide_eq_true out))]
      rfl
    · rw [List.find?_cons_of_neg out, if_pos (by simpa [beyond] using out)]
      rw [readSectors] at ih
      rw [ih]
      cases ids.find? (beyond data header) with
      | some id => rfl
      | none => rfl

end

/-! ## Paths -/

theorem SameButPaths.refl (entries : Array DirectoryEntry) : SameButPaths entries entries := by
  intro i
  rw [pathAt]
  cases entries[i]? with
  | none => rfl
  | some e => rfl

theorem sameButPaths_assignPaths {entries now : Array DirectoryEntry} {pending : List (EntryId × Path)}
    (same : SameButPaths entries now) : SameButPaths entries (assignPaths now pending) := by
  fun_induction assignPaths now pending with
  | case1 now => exact same
  | case2 now parent rest ih => exact ih same
  | case3 now id parent rest somewhere inside pathless entry path less ih => exact ih (same.set inside path)
  | case4 now id parent rest somewhere inside visited ih => exact ih same
  | case5 now id parent rest somewhere behind ih => exact ih same

/-- Giving entries their paths leaves the rest of them as it is. -/
theorem sameButPaths_resolvePaths (entries : Array DirectoryEntry) : SameButPaths entries (resolvePaths entries) := by
  rw [resolvePaths]
  split
  case isTrue nonempty => exact sameButPaths_assignPaths ((SameButPaths.refl entries).set nonempty Path.root)
  case isFalse => exact .refl entries

/-! ## Reading -/

theorem fst_read (data : Bytes) (header : Header) (t : SectorTable) (log : Log) :
    (read data header t log).1 =
      let chain := t.chain header.firstDirectorySector
      if chain = [] then .error (.table .noDirectorySectors)
      else
        match chain.find? (beyond data header) with
        | some id => .error (.table (.sectorBeyondEnd id (header.sectorStart id) data.size))
        | none =>
          let entries := parseEntries (chain.map (header.sectorBytes data)) header.majorVersion
          if entries[0]?.map (·.type) = some .root then .ok (resolvePaths entries)
          else .error (.table .rootNotFirst) := by
  rw [read]
  dsimp only
  by_cases empty : t.chain header.firstDirectorySector = []
  · rw [if_pos empty, if_pos (List.isEmpty_iff.2 empty)]
    rfl
  rw [if_neg empty, if_neg (mt List.isEmpty_iff.1 empty), readSectors_eq]
  cases (t.chain header.firstDirectorySector).find? (beyond data header) with
  | some id => rfl
  | none =>
    dsimp only
    by_cases root : (parseEntries ((t.chain header.firstDirectorySector).map (header.sectorBytes data))
        header.majorVersion)[0]?.map (·.type) = some .root
    · rw [if_pos root, if_neg (not_not.2 root)]
      rfl
    · rw [if_neg root, if_pos root]
      rfl

/-- Of a directory whose sectors are whole only the first entry decides whether it is read. -/
theorem fst_read_of_whole {data : Bytes} {header : Header} (t : SectorTable) (log : Log)
    (whole : ∀ id ∈ t.chain header.firstDirectorySector, header.Whole data id) :
    let sectors := (t.chain header.firstDirectorySector).map (header.sectorBytes data)
    let entries := parseEntries sectors header.majorVersion
    if entries[0]?.map (·.type) = some .root then (read data header t log).1 = .ok (resolvePaths entries)
    else ∃ e, (read data header t log).1 = .error e ∧ e.kind = .corruptedFile := by
  have inside : (t.chain header.firstDirectorySector).find? (beyond data header) = none := by
    have pos := header.sectorSize_pos
    refine List.find?_eq_none.2 fun id mem out => ?_
    have behind := beyond_iff.1 out
    have all : header.sectorStart id + header.sectorSize ≤ data.size := whole id mem
    omega
  intro sectors entries
  have ends := fst_read data header t log
  dsimp only at ends
  rw [inside] at ends
  by_cases empty : t.chain header.firstDirectorySector = []
  · have none_first : entries[0]?.map (·.type) = none := by
      simp only [entries, sectors, empty]
      rfl
    rw [none_first, if_neg (by simp), ends, if_pos empty]
    exact ⟨_, rfl, rfl⟩
  rw [if_neg empty] at ends
  split
  case isTrue root => exact ends.trans (if_pos root)
  case isFalse other => exact ⟨_, ends.trans (if_neg other), rfl⟩

/-- A directory whose sectors are whole is read iff there is one and its first slot is of the root's type. Its
entries are then those of all slots in order, numbered from zero in 32 bits, with the fields that are stored there. A
sector behind the end of the file is an error. -/
theorem read_stored {data : Bytes} {header : Header} (parsed : Header.parse data = .ok header) (t : SectorTable)
    (log : Log) :
    let chain := t.chain header.firstDirectorySector
    ((∀ id ∈ chain, header.Whole data id) →
      ((∃ entries, (read data header t log).1 = .ok entries) ↔
        ∃ first, chain.head? = some first ∧ data[header.sectorStart first + 0x42]? = some 5) ∧
      (∀ e, (read data header t log).1 = .error e → e.kind = .corruptedFile) ∧
      ∀ entries, (read data header t log).1 = .ok entries → entries.size = chain.length * header.perSector ∧
        ∀ i e, entries[i]? = some e → e.id = UInt32.ofNat i ∧ ∃ id, chain[i / header.perSector]? = some id ∧
          StoredEntry data header.majorVersion (header.slotStart id (i % header.perSector)) e) ∧
    ((∃ id ∈ chain, data.size ≤ header.sectorStart id) →
      ∃ e, (read data header t log).1 = .error e ∧ e.kind = .corruptedFile) := by
  intro chain
  have aligned := Header.dvd_sectorSize parsed (show 128 ∣ 512 by decide)
  refine ⟨fun whole => ?_, fun ⟨id, mem, out⟩ => ?_⟩
  · have ends := fst_read_of_whole t log whole
    have same := sameButPaths_resolvePaths (parseEntries (chain.map (header.sectorBytes data)) header.majorVersion)
    have size := size_parseEntries whole header.majorVersion
    rw [← rootFirst_iff aligned whole header.majorVersion]
    dsimp only at ends
    split at ends
    case isTrue root =>
      rw [ends]
      refine ⟨iff_of_true ⟨_, rfl⟩ root, fun e failed => (nomatch failed), fun entries read => ?_⟩
      obtain rfl := Except.ok.inj read
      refine ⟨same.size_eq.trans size, fun i e at_i => ?_⟩
      obtain ⟨e, unplaced, rfl⟩ := Option.map_eq_some_iff.1 ((same i).symm.trans at_i)
      obtain ⟨number, id, sector, fields⟩ := stored_parseEntries aligned whole unplaced
      exact ⟨number, id, sector, fields.withPath _⟩
    case isFalse other =>
      obtain ⟨e, failed, kind⟩ := ends
      rw [failed]
      refine ⟨iff_of_false (fun ⟨_, ok⟩ => nomatch ok) other, fun e' eq => ?_, fun _ ok => nomatch ok⟩
      obtain rfl := Except.error.inj eq
      exact kind
  · have nonempty : chain ≠ [] := List.ne_nil_of_mem mem
    obtain ⟨first, found⟩ : ∃ first, chain.find? (beyond data header) = some first :=
      Option.ne_none_iff_exists'.1 fun inside => List.find?_eq_none.1 inside id mem (beyond_iff.2 out)
    refine ⟨.table (.sectorBeyondEnd first (header.sectorStart first) data.size), ?_, rfl⟩
    rw [fst_read]
    dsimp only
    rw [if_neg nonempty, found]

/-- The header of a document with its directory in sector 0 and no sectors of the table. -/
def rootOnly : Header := { Header.blank with firstDirectorySector := 0 }

/-- A document of this header and of one sector, in which nothing but the type of the root is set. -/
def rootOnlyFile : Bytes := (rootOnly.encode ++ (List.replicate 0x42 0 ++ 5 :: List.replicate 445 0)).toArray

/-- Four slots are read from the only sector. -/
theorem read_stored_rootOnly : Header.parse rootOnlyFile = .ok rootOnly ∧
    ∃ entries, (read rootOnlyFile rootOnly default #[]).1 = .ok entries ∧ entries.size = 4 ∧
      ∀ i e, entries[i]? = some e → e.id = UInt32.ofNat i ∧ StoredEntry rootOnlyFile 3 (512 + i * 128) e := by
  have parsed : Header.parse rootOnlyFile = .ok rootOnly := Header.parse_append rfl rfl (by decide) _
  have size : rootOnlyFile.size = 1024 := by
    rw [rootOnlyFile, List.size_toArray, List.length_append, Header.length_encode, List.length_append, List.length_cons,
      List.length_replicate, List.length_replicate]
  have chain : (default : SectorTable).chain rootOnly.firstDirectorySector = [0] := by decide
  have root : rootOnlyFile[578]? = some 5 := by
    have behind : 578 = rootOnly.encode.length + 0x42 := by rw [Header.length_encode]
    rw [rootOnlyFile, List.getElem?_toArray, behind, List.getElem?_append_right (Nat.le_add_right _ _),
      Nat.add_sub_cancel_left]
    rfl
  have stored := (read_stored parsed default #[]).1
  rw [chain] at stored
  obtain ⟨iff, -, fields⟩ := stored (List.forall_mem_singleton.2 (by rw [Header.Whole, size]; decide))
  obtain ⟨entries, ok⟩ := iff.2 ⟨0, rfl, root⟩
  obtain ⟨all, each⟩ := fields entries ok
  refine ⟨parsed, entries, ok, all, fun i e at_i => ?_⟩
  obtain ⟨number, id, sector, entry⟩ := each i e at_i
  have slots : rootOnly.perSector = 4 := rfl
  rw [slots] at sector entry
  rw [List.getElem?_singleton] at sector
  obtain ⟨first, eq⟩ := Option.ite_none_right_eq_some.1 sector
  obtain rfl := Option.some.inj eq
  rw [Nat.mod_eq_of_lt (show i < 4 by omega)] at entry
  exact ⟨number, entry⟩

end Directory

end DeckDump.Compound
