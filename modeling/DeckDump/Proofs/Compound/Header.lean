import DeckDump.Compound.Header
import DeckDump.Proofs.Encoded

/-!
# Reading headers

* `fields_of_holdsAt`: a file that starts with the bytes of a header has the fields of that header;
* `Sound`, `Signed`: what is asked of a header, and of the file around it;
* `parse_cases`, `parse_ok_iff`: a header that is sound is accepted of a file that is signed, and of no other;
* `parse_of_holdsAt`: so one that is sound is read where its bytes stand;
* `blank`: one that lists no sectors;
* `sectorSize_of_parse`: a header that is accepted has one of two sector sizes;
* `dvd_sectorSize`: so what divides 512 divides it.
-/

namespace DeckDump.Compound.Header

open Bytes (holdsAt_append HoldsAt)

theorem word16_of_holdsAt {data : Bytes} {i : Nat} {w : UInt16} (h : data.HoldsAt i (bytesOf16 w)) :
    word16 data i = w := by
  rw [word16, h.u16At?, Option.getD_some]

theorem word32_of_holdsAt {data : Bytes} {i : Nat} {w : UInt32} (h : data.HoldsAt i (bytesOf32 w)) :
    word32 data i = w := by
  rw [word32, h.u32At?, Option.getD_some]

theorem length_encode (h : Header) : h.encode.length = 512 := by
  simp only [encode, List.length_append, length_bytesOf16, length_bytesOf32, signature, List.length_cons,
    List.length_nil, List.length_replicate, Vector.length_toList, length_flatMap_of_length length_bytesOf32]

/-- A file that starts with the bytes of a header has the fields of that header. -/
theorem fields_of_holdsAt {data : Bytes} {h : Header} (holds : data.HoldsAt 0 h.encode) : fields data = h := by
  simp only [encode, List.append_assoc, holdsAt_append, length_bytesOf16, length_bytesOf32, signature, List.length_cons,
    List.length_nil, List.length_replicate, Vector.length_toList, Nat.reduceAdd] at holds
  obtain ⟨-, clsid, minor, major, order, shift, mini, -, directory, fat, first, transaction, cutoff, miniFat, miniFats,
    firstDifat, difats, listed⟩ := holds
  have difat : Vector.ofFn (fun i : Fin 109 => word32 data (0x4C + 4 * i)) = h.difat := by
    refine Vector.ext fun i inside => ?_
    have at_i : h.difat.toList[i]? = some h.difat[i] := by simp [inside]
    have word := (listed.flatMap at_i).u32At?
    rw [length_flatMap_take length_bytesOf32 at_i, Nat.mul_comm] at word
    rw [Vector.getElem_ofFn, word32, word, Option.getD_some]
  rw [fields, difat, clsid.guidAt?, word16_of_holdsAt minor, word16_of_holdsAt major, word16_of_holdsAt order,
    word16_of_holdsAt shift, word16_of_holdsAt mini, word32_of_holdsAt directory, word32_of_holdsAt fat,
    word32_of_holdsAt first, word32_of_holdsAt transaction, word32_of_holdsAt cutoff, word32_of_holdsAt miniFat,
    word32_of_holdsAt miniFats, word32_of_holdsAt firstDifat, word32_of_holdsAt difats]
  rfl

/-! ## Headers that are accepted -/

/-- Whether a header has the mark, a sector size that is that of its version, and smaller mini sectors. -/
def Sound (h : Header) : Prop :=
  h.byteOrder = littleEndianMark ∧ h.sizeMatchesVersion = true ∧ h.miniSectorShift < h.sectorShift

instance (h : Header) : Decidable h.Sound := inferInstanceAs (Decidable (_ ∧ _ ∧ _))

/-- Whether a file is a compound document at all, from its size and its first bytes. -/
def Signed (data : Bytes) : Prop := 512 ≤ data.size ∧ signature <+: data.toList

instance (data : Bytes) : Decidable (Signed data) := inferInstanceAs (Decidable (_ ∧ _))

theorem extract_signature_iff {data : Bytes} : (data.extract 0 8).toList = signature ↔ signature <+: data.toList := by
  rw [Array.toList_extract, List.extract_eq_take_drop, List.drop_zero, List.prefix_iff_eq_take, eq_comm]
  rfl

/-- What reading a header comes to: it is accepted, or the file is no compound document, or it is a damaged one. -/
theorem parse_cases (data : Bytes) :
    Signed data ∧ (fields data).Sound ∧ parse data = .ok (fields data) ∨
    ¬ Signed data ∧ (∃ fault, parse data = .error fault ∧ fault.isForeign = true) ∨
    Signed data ∧ ¬ (fields data).Sound ∧ ∃ fault, parse data = .error fault ∧ fault.isForeign = false := by
  rw [parse]
  by_cases long : size ≤ data.size
  case neg =>
    rw [if_pos (Nat.not_le.1 long)]
    exact .inr (.inl ⟨fun signed => long signed.1, _, rfl, rfl⟩)
  rw [if_neg (Nat.not_lt.2 long)]
  by_cases prefixed : signature <+: data.toList
  case neg =>
    rw [if_pos (mt extract_signature_iff.1 prefixed)]
    exact .inr (.inl ⟨fun signed => prefixed signed.2, _, rfl, rfl⟩)
  rw [if_neg (Decidable.not_not.2 (extract_signature_iff.2 prefixed))]
  dsimp only
  by_cases mark : (fields data).byteOrder = littleEndianMark
  case neg =>
    rw [if_pos mark]
    exact .inr (.inr ⟨⟨long, prefixed⟩, fun sound => mark sound.1, _, rfl, rfl⟩)
  rw [if_neg (Decidable.not_not.2 mark)]
  by_cases size : (fields data).sizeMatchesVersion = true
  case neg =>
    rw [if_pos size]
    exact .inr (.inr ⟨⟨long, prefixed⟩, fun sound => size sound.2.1, _, rfl, rfl⟩)
  rw [if_neg (Decidable.not_not.2 size)]
  by_cases mini : (fields data).miniSectorShift < (fields data).sectorShift
  case neg =>
    rw [if_pos (UInt16.not_lt.1 mini)]
    exact .inr (.inr ⟨⟨long, prefixed⟩, fun sound => mini sound.2.2, _, rfl, rfl⟩)
  rw [if_neg (UInt16.not_le.2 mini)]
  exact .inl ⟨⟨long, prefixed⟩, ⟨mark, size, mini⟩, rfl⟩

/-- From which files a header is read, and which one it is. -/
theorem parse_ok_iff {data : Bytes} {h : Header} :
    parse data = .ok h ↔ Signed data ∧ h.Sound ∧ fields data = h := by
  obtain ⟨signed, sound, ok⟩ | ⟨unsigned, fault, refused, -⟩ | ⟨-, unsound, fault, refused, -⟩ := parse_cases data
  · rw [ok, Except.ok.injEq]
    exact ⟨fun same => ⟨signed, same ▸ sound, same⟩, fun accepted => accepted.2.2⟩
  · rw [refused]
    exact iff_of_false nofun fun accepted => unsigned accepted.1
  · rw [refused]
    exact iff_of_false nofun fun accepted => unsound (accepted.2.2 ▸ accepted.2.1)

/-- A header that is accepted is read off a file that starts with its bytes. -/
theorem parse_of_holdsAt {data : Bytes} {h : Header} (holds : data.HoldsAt 0 h.encode)
    (order : h.byteOrder = littleEndianMark) (sizes : h.sizeMatchesVersion = true)
    (mini : h.miniSectorShift < h.sectorShift) : parse data = .ok h := by
  have long : 512 ≤ data.size := by
    have inside := holds.le_size (List.ne_nil_of_length_pos (by rw [length_encode]; decide))
    rw [length_encode] at inside
    omega
  have signed : (data.extract 0 8).toList = signature := by
    simp only [encode, List.append_assoc] at holds
    exact (holdsAt_append.1 holds).1
  exact parse_ok_iff.2 ⟨⟨long, extract_signature_iff.1 signed⟩, ⟨order, sizes, mini⟩, fields_of_holdsAt holds⟩

theorem parse_append {h : Header} (order : h.byteOrder = littleEndianMark) (sizes : h.sizeMatchesVersion = true)
    (mini : h.miniSectorShift < h.sectorShift) (rest : List UInt8) : parse (h.encode ++ rest).toArray = .ok h :=
  parse_of_holdsAt (holdsAt_append.1 (Bytes.holdsAt_whole _)).1 order sizes mini

/-- The header of a version 3 document that lists no sectors. -/
def blank : Header where
  clsid := Guid.nil
  minorVersion := 0x3E
  majorVersion := 3
  byteOrder := littleEndianMark
  sectorShift := 9
  miniSectorShift := 6
  directorySectors := 0
  fatSectors := 0
  firstDirectorySector := SectorId.endOfChain
  transactionSignature := 0
  miniStreamCutoff := 0x1000
  firstMiniFatSector := SectorId.endOfChain
  miniFatSectors := 0
  firstDifatSector := SectorId.endOfChain
  difatSectors := 0
  difat := Vector.replicate 109 SectorId.free

/-- A header that is accepted has one of two sector sizes. -/
theorem sectorSize_of_parse {data : Bytes} {h : Header} (parsed : parse data = .ok h) :
    h.sectorSize = 512 ∨ h.sectorSize = 4096 := by
  obtain ⟨-, ⟨-, sizes, -⟩, -⟩ := parse_ok_iff.1 parsed
  simp only [sizeMatchesVersion, Bool.or_eq_true, Bool.and_eq_true, beq_iff_eq] at sizes
  rcases sizes with ⟨-, shift⟩ | ⟨-, shift⟩
  · exact .inl (by rw [sectorSize, shift]; rfl)
  · exact .inr (by rw [sectorSize, shift]; rfl)

theorem dvd_sectorSize {data : Bytes} {h : Header} (parsed : parse data = .ok h) {n : Nat} (dvd : n ∣ 512) :
    n ∣ h.sectorSize := by
  rcases sectorSize_of_parse parsed with size | size <;> rw [size]
  · exact dvd
  · exact Nat.dvd_trans dvd (by decide)

end DeckDump.Compound.Header
