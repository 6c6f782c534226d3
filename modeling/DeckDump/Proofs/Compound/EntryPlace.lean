import DeckDump.Proofs.Compound.Chain
import DeckDump.Proofs.Compound.Difat

/-!
# The places of the entries of a table

An entry is found at the number of the sector that it is about. The table packs the words that the file has of
its sectors one behind the other, and so puts an entry there only behind whole sectors:

* `evenPlace`: where the entry of a sector is looked for;
* `packedPlace`: where it is;
* `EntriesAt`: the words of a table are found at the given places, and chains lead on to them;
* `packedPlace_eq_even_iff`: both places are one behind whole sectors, and only there;
* `load_entriesAt`: every table that is loaded has its entries at their packed places;
* `not_entriesAt_even`: a short sector in front of another one shows that the entries need not be at the even ones.
-/

namespace DeckDump.Compound.SectorTable

section

variable (data : Bytes) (header : Header) (t : SectorTable)

/-- The number of the sector that word `k` of sector `j` of a table is about. -/
def evenPlace (j k : Nat) : Nat := j * (header.sectorSize / 4) + k

/-- How many words the file has in front of word `k` of sector `j` of a table. -/
def packedPlace (j k : Nat) : Nat := ((t.fatSectors.take j).flatMap (header.sectorWords data)).length + k

/-- Whether `w` is word `k` of sector `j` of a table; it is all inside the file. -/
def Stores (j k : Nat) (w : SectorId) : Prop :=
  ∃ id, t.fatSectors[j]? = some id ∧ k < header.sectorSize / 4 ∧
    data.u32At? (header.sectorStart id + k * 4) = some w

/-- The words that a table stores are its entries at `place`, and the chain from the sector of such a number goes on
with the sector that the word names. -/
structure EntriesAt (place : Nat → Nat → Nat) : Prop where
  entry : ∀ j k w, Stores data header t j k w → t.fat[place j k]? = some w
  chain : ∀ j k w, Stores data header t j k w → ∀ s : SectorId, s.toNat = place j k → s.isRegular →
    (t.chain s)[0]? = some s ∧ (t.chain s)[1]? = named w

end

variable {data : Bytes} {header : Header} {t : SectorTable}

/-- Chains go on as the entries say. -/
theorem entriesAt_of_entry {place : Nat → Nat → Nat}
    (entry : ∀ j k w, Stores data header t j k w → t.fat[place j k]? = some w) : EntriesAt data header t place where
  entry := entry
  chain j k w stored s at_place regular := by
    have found := entry j k w stored
    have first : t.walk s 0 = some s := (named_eq s).trans (if_pos regular)
    have second : t.walk s 1 = named w := by
      rw [walk, first, Option.bind_some, next?, at_place, found, Option.bind_some]
    have inside : place j k < t.fat.size := (Array.getElem?_eq_some_iff.1 found).1
    refine ⟨?_, ?_⟩
    · rw [getElem?_chain, if_pos (by omega), first]
    · rw [getElem?_chain, if_pos (by omega), second]

/-- The sectors of a list have all their words iff each has. -/
theorem length_words_eq_iff (aligned : 4 ∣ header.sectorSize) (ids : List SectorId) :
    (ids.flatMap (header.sectorWords data)).length = ids.length * (header.sectorSize / 4) ↔
      ∀ id ∈ ids, header.Whole data id := by
  induction ids with
  | nil => simp
  | cons id ids ih =>
    have one := header.length_sectorWords_le data id
    have rest := header.length_words_le data ids
    rw [List.forall_mem_cons, ← ih, ← Header.length_sectorWords_eq_iff aligned, List.flatMap_cons,
      List.length_append, List.length_cons, Nat.succ_mul]
    omega

/-- The two places are one behind whole sectors, and only there. -/
theorem packedPlace_eq_even_iff (aligned : 4 ∣ header.sectorSize) {j : Nat} (inside : j ≤ t.fatSectors.length)
    (k : Nat) : packedPlace data header t j k = evenPlace header j k ↔
      ∀ id ∈ t.fatSectors.take j, header.Whole data id := by
  rw [packedPlace, evenPlace, Nat.add_right_cancel_iff, ← length_words_eq_iff aligned, List.length_take,
    Nat.min_eq_left inside]

/-- A table that is loaded has the words of its sectors. -/
theorem fat_of_load (aligned : 4 ∣ header.sectorSize) {log : Log} (loaded : (load data header log).1 = .ok t) :
    t.fat = (t.fatSectors.flatMap (header.sectorWords data)).toArray := by
  rw [fst_load data header aligned] at loaded
  split at loaded
  · cases loaded
  dsimp only at loaded
  split at loaded
  · cases loaded
  · cases loaded
    rfl

/-- A table that is loaded has its entries at their packed places. Those in a sector behind whole ones are at
their even places; so are all entries if no sector but the last one is cut short. -/
theorem load_entriesAt (parsed : Header.parse data = .ok header) {log : Log}
    (loaded : (load data header log).1 = .ok t) :
    EntriesAt data header t (packedPlace data header t) ∧
      (∀ j ≤ t.fatSectors.length, ∀ k, packedPlace data header t j k = evenPlace header j k ↔
        ∀ id ∈ t.fatSectors.take j, header.Whole data id) ∧
      ((∀ id ∈ t.fatSectors.dropLast, header.Whole data id) →
        EntriesAt data header t (evenPlace header)) := by
  have aligned := Header.dvd_sectorSize parsed (show 4 ∣ 512 by decide)
  have packed (j k : Nat) (w : SectorId) (stored : Stores data header t j k w) :
      t.fat[packedPlace data header t j k]? = some w := by
    obtain ⟨id, at_j, within, there⟩ := stored
    have word : (header.sectorWords data id)[k]? = some w := by
      rw [header.getElem?_sectorWords, if_pos (by omega), there]
    rw [fat_of_load aligned loaded, List.getElem?_toArray, packedPlace, getElem?_flatMap at_j word]
  have even (j : Nat) (inside : j ≤ t.fatSectors.length) (k : Nat) :
      packedPlace data header t j k = evenPlace header j k ↔
        ∀ id ∈ t.fatSectors.take j, header.Whole data id :=
    packedPlace_eq_even_iff aligned inside k
  refine ⟨entriesAt_of_entry packed, even, fun whole => entriesAt_of_entry fun j k w stored => ?_⟩
  have inside : j < t.fatSectors.length := by
    obtain ⟨id, at_j, -⟩ := stored
    exact (List.getElem?_eq_some_iff.1 at_j).1
  have front : t.fatSectors.take j ⊆ t.fatSectors.dropLast := by
    rw [List.dropLast_eq_take]
    exact List.take_subset_take_left _ (by omega)
  rw [← (even j (by omega) k).2 fun id mem => whole id (front mem)]
  exact packed j k w stored

/-! ## A short sector in front of another one -/

/-- The header of a document whose table is in sector 1 and, behind that, in sector 0. -/
def backwards : Header := { Header.blank with fatSectors := 2, difat := (Header.blank.difat.set 0 1).set 1 0 }

/-- A sector that leads from its last place to sector 7. -/
def toSeven : List UInt32 := List.replicate 127 SectorId.endOfChain ++ [7]

/-- A document of this sector, which ends behind the first word of sector 1. -/
def backwardsFile : Bytes :=
  (backwards.encode ++ (toSeven.flatMap bytesOf32 ++ [SectorId.fatMark].flatMap bytesOf32)).toArray

/-- The table of this document. -/
def backwardsTable : SectorTable := ⟨[1, 0], (SectorId.fatMark :: toSeven).toArray⟩

theorem parse_backwards : Header.parse backwardsFile = .ok backwards := Header.parse_append rfl rfl (by decide) _

theorem length_toSeven : toSeven.length = 128 := by decide +kernel

theorem size_backwardsFile : backwardsFile.size = 1028 := by
  rw [backwardsFile, List.size_toArray, List.length_append, Header.length_encode, List.length_append,
    length_flatMap_of_length length_bytesOf32, length_toSeven]
  rfl

theorem sectorWords_backwards :
    backwards.sectorWords backwardsFile 0 = toSeven ∧ backwards.sectorWords backwardsFile 1 = [SectorId.fatMark] := by
  have file : backwardsFile.HoldsAt 0 _ := Bytes.holdsAt_whole _
  rw [Bytes.holdsAt_append, Bytes.holdsAt_append, Header.length_encode, length_flatMap_of_length length_bytesOf32,
    length_toSeven] at file
  obtain ⟨-, first, second⟩ := file
  refine ⟨Header.sectorWords_of_holdsAt first ?_ ?_, Header.sectorWords_of_holdsAt second ?_ ?_⟩
  · rw [length_toSeven]; decide
  · rw [size_backwardsFile, length_toSeven]; decide
  · decide
  · rw [size_backwardsFile]; decide

theorem load_backwards : (load backwardsFile backwards #[]).1 = .ok backwardsTable := by
  have header_listed : backwards.difat.toList.takeWhile SectorId.isRegular = [1, 0] := by decide +kernel
  have walk : difatWalk backwardsFile backwards = [] := difatWalk_of_zero rfl
  have listed_eq : (listed backwardsFile backwards).take (backwards.sectorCount backwardsFile.size) = [1, 0] := by
    rw [listed, header_listed, walk, size_backwardsFile]
    rfl
  have inside : [1, 0].find? (beyond backwardsFile backwards) = none := by
    have bound : beyond backwardsFile backwards = fun id => decide (2 ≤ id.toNat) := by
      funext id
      rw [beyond, size_backwardsFile]
      rfl
    rw [bound]
    decide
  rw [fst_load _ _ (by decide), walk, listed_eq]
  dsimp only [List.find?_nil]
  rw [inside, List.flatMap_cons, List.flatMap_cons, sectorWords_backwards.1, sectorWords_backwards.2]
  rfl

theorem stores_backwards {k : Nat} {w : SectorId} (at_k : toSeven[k]? = some w) :
    Stores backwardsFile backwards backwardsTable 1 k w := by
  have within : k < 128 := length_toSeven ▸ (List.getElem?_eq_some_iff.1 at_k).1
  have word := Header.getElem?_sectorWords backwards backwardsFile 0 k
  have fits : k * 4 + 4 ≤ backwards.sectorSize := show k * 4 + 4 ≤ 512 by omega
  rw [sectorWords_backwards.1, at_k, if_pos fits] at word
  exact ⟨0, rfl, within, word.symm⟩

/-- The last word of the whole sector is the entry that the chain from sector 128 goes on with. -/
theorem load_entriesAt_backwards :
    Header.parse backwardsFile = .ok backwards ∧ (load backwardsFile backwards #[]).1 = .ok backwardsTable ∧
      packedPlace backwardsFile backwards backwardsTable 1 127 = 128 ∧
      (backwardsTable.chain 128)[0]? = some 128 ∧ (backwardsTable.chain 128)[1]? = some 7 := by
  have place : packedPlace backwardsFile backwards backwardsTable 1 127 = 128 := by
    show ([1].flatMap (backwards.sectorWords backwardsFile)).length + 127 = 128
    rw [List.flatMap_cons, sectorWords_backwards.2]
    rfl
  have last := stores_backwards (show toSeven[127]? = some 7 by decide +kernel)
  have chains := (load_entriesAt parse_backwards load_backwards).1.chain 1 127 7 last 128 (by rw [place]; rfl) rfl
  exact ⟨parse_backwards, load_backwards, place, chains⟩

/-- The first word of the whole sector is not the entry of sector 128. -/
theorem not_entriesAt_even :
    Header.parse backwardsFile = .ok backwards ∧ (load backwardsFile backwards #[]).1 = .ok backwardsTable ∧
      ¬ EntriesAt backwardsFile backwards backwardsTable (evenPlace backwards) := by
  refine ⟨parse_backwards, load_backwards, fun even => ?_⟩
  have found := even.entry 1 0 SectorId.endOfChain (stores_backwards (by decide +kernel))
  have other : backwardsTable.fat[evenPlace backwards 1 0]? = some 7 := by decide +kernel
  rw [found] at other
  exact absurd (Option.some.inj other) (by decide)

end DeckDump.Compound.SectorTable
