import DeckDump.Error
import DeckDump.Proofs.Compound.Header
import Mathlib.Logic.ExistsUnique

/-!
# The fields of headers

A header is a signature, an identifier, five words, six reserved bytes and 118 double words, of which the last
109 are the first sectors of the allocation table:

* `Field`, `Field.Covers`: the parts that a header is read from, and the bytes of each;
* `exists_covers_iff`, `Field.Covers.unique`: every byte but those of the signature and the reserved ones is in
  exactly one field;
* `fields_eq_iff`: what is read of a file are the fields whose bytes stand there;
* `Field.bytes_eq_iff`: so each field depends on its own bytes;
* `Acceptable`, `exists_parse_iff`, `kind_of_refused`: which files start with a header that is accepted, by their
  bytes, and how the others are refused;
* `eq_iff_of_parse`: when two files have the same header;
* `parse_covers`: what that means for one file and for two.
-/

namespace DeckDump.Compound.Header

open Bytes (HoldsAt)

/-- The parts of a header that are read. -/
inductive Field
  | clsid
  | word (i : Fin 5)
  | doubleWord (i : Fin 118)
deriving DecidableEq

/-- The words of a header, in the order in which they are stored. -/
def words (h : Header) : Vector UInt16 5 :=
  #v[h.minorVersion, h.majorVersion, h.byteOrder, h.sectorShift, h.miniSectorShift]

/-- The double words of a header in front of the sectors that it lists, in the order in which they are stored. -/
def frontDoubleWords (h : Header) : Vector UInt32 9 :=
  #v[h.directorySectors, h.fatSectors, h.firstDirectorySector, h.transactionSignature, h.miniStreamCutoff,
    h.firstMiniFatSector, h.miniFatSectors, h.firstDifatSector, h.difatSectors]

/-- The double words of a header, in the order in which they are stored. -/
def doubleWords (h : Header) : Vector UInt32 118 := h.frontDoubleWords ++ h.difat

namespace Field

/-- Where a field starts. -/
def offset : Field → Nat
  | clsid => 0x08
  | word i => 0x18 + i * 2
  | doubleWord i => 0x28 + i * 4

/-- How many bytes a field has. -/
def width : Field → Nat
  | clsid => 16
  | word _ => 2
  | doubleWord _ => 4

/-- Whether byte `i` is one of a field. -/
def Covers (f : Field) (i : Nat) : Prop := f.offset ≤ i ∧ i < f.offset + f.width

/-- The bytes of a field of a header. -/
def bytes (h : Header) : Field → List UInt8
  | clsid => h.clsid.toList
  | word i => bytesOf16 h.words[i]
  | doubleWord i => bytesOf32 h.doubleWords[i]

theorem length_bytes (h : Header) (f : Field) : (f.bytes h).length = f.width := by
  cases f with
  | clsid => exact h.clsid.length_toList
  | word | doubleWord => rfl

/-- No byte is in two fields. -/
theorem Covers.unique {f g : Field} {i : Nat} (hf : f.Covers i) (hg : g.Covers i) : f = g := by
  obtain _ | j | j := f <;> obtain _ | k | k := g <;> simp only [Covers, offset, width] at hf hg
  case clsid.clsid => rfl
  case word.word => exact congrArg word (Fin.ext (by omega))
  case doubleWord.doubleWord => exact congrArg doubleWord (Fin.ext (by omega))
  all_goals omega

/-- The bytes that are in a field are those behind the signature, but for the reserved ones. -/
theorem exists_covers_iff (i : Nat) : (∃ f : Field, f.Covers i) ↔ 0x08 ≤ i ∧ i < 0x22 ∨ 0x28 ≤ i ∧ i < 0x200 := by
  constructor
  · rintro ⟨_ | j | j, first, last⟩ <;> simp only [offset, width] at first last <;> omega
  · intro inside
    obtain low | mid | high : i < 0x18 ∨ (0x18 ≤ i ∧ i < 0x22) ∨ 0x28 ≤ i := by omega
    · exact ⟨clsid, show 0x08 ≤ i ∧ i < 0x08 + 16 by omega⟩
    · refine ⟨word ⟨(i - 0x18) / 2, by omega⟩, ?_⟩
      simp only [Covers, offset, width]
      omega
    · refine ⟨doubleWord ⟨(i - 0x28) / 4, by omega⟩, ?_⟩
      simp only [Covers, offset, width]
      omega

end Field

/-! ## Reading fields -/

/-- A header is its identifier, its words and its double words. -/
theorem eq_of_words {h h' : Header} (clsid : h.clsid = h'.clsid) (words : h.words = h'.words)
    (doubleWords : h.doubleWords = h'.doubleWords) : h = h' := by
  obtain ⟨front, difat⟩ := Vector.append_inj doubleWords
  cases h
  cases h'
  simp_all [Header.words, frontDoubleWords]

theorem getElem_words_fields (data : Bytes) (i : Fin 5) : (fields data).words[i] = word16 data (0x18 + i * 2) := by
  revert i
  simp only [Fin.forall_fin_succ]
  exact ⟨rfl, rfl, rfl, rfl, rfl, nofun⟩

theorem getElem_frontDoubleWords_fields (data : Bytes) (i : Fin 9) :
    (fields data).frontDoubleWords[i] = word32 data (0x28 + i * 4) := by
  revert i
  simp only [Fin.forall_fin_succ]
  exact ⟨rfl, rfl, rfl, rfl, rfl, rfl, rfl, rfl, rfl, nofun⟩

theorem getElem_doubleWords_fields (data : Bytes) (i : Fin 118) :
    (fields data).doubleWords[i] = word32 data (0x28 + i * 4) := by
  rw [Fin.getElem_fin, doubleWords, Vector.getElem_append]
  split
  · next front => exact getElem_frontDoubleWords_fields data ⟨i, front⟩
  · simp only [fields, Vector.getElem_ofFn]
    exact congrArg (word32 data) (by omega)

theorem Field.holdsAt_iff {data : Bytes} {h : Header} {f : Field} :
    data.HoldsAt f.offset (f.bytes h) ↔ (data.extract f.offset (f.offset + f.width)).toList = f.bytes h := by
  rw [HoldsAt, f.length_bytes]

/-- What is read of a file that has room for a header are the fields whose bytes stand there. -/
theorem fields_eq_iff {data : Bytes} (long : 512 ≤ data.size) (h : Header) :
    fields data = h ↔ ∀ f : Field, data.HoldsAt f.offset (f.bytes h) := by
  constructor
  · rintro rfl f
    rw [Field.holdsAt_iff]
    obtain _ | i | i := f
    · have found : data.guidAt? 0x08 = some (fields data).clsid :=
        eq_some_getD ((Bytes.guidAt?_isSome _ _).2 (by omega)) Guid.nil
      exact (Bytes.guidAt?_eq_some_iff _ _ _).1 found
    · have found : data.u16At? (0x18 + i * 2) = some (fields data).words[i] := by
        rw [getElem_words_fields]
        exact eq_some_getD ((Bytes.u16At?_isSome _ _).2 (by omega)) 0
      exact (Bytes.u16At?_eq_some_iff _ _ _).1 found
    · have found : data.u32At? (0x28 + i * 4) = some (fields data).doubleWords[i] := by
        rw [getElem_doubleWords_fields]
        exact eq_some_getD ((Bytes.u32At?_isSome _ _).2 (by omega)) 0
      exact (Bytes.u32At?_eq_some_iff _ _ _).1 found
  · intro stands
    refine eq_of_words ?_ (Vector.ext fun i inside => ?_) (Vector.ext fun i inside => ?_)
    · have clsid : data.HoldsAt 0x08 h.clsid.toList := stands .clsid
      exact congrArg (Option.getD · Guid.nil) clsid.guidAt?
    · exact (getElem_words_fields data ⟨i, inside⟩).trans (word16_of_holdsAt (stands (.word ⟨i, inside⟩)))
    · exact (getElem_doubleWords_fields data ⟨i, inside⟩).trans (word32_of_holdsAt (stands (.doubleWord ⟨i, inside⟩)))

/-- Two files hold the same field iff they have the same bytes there. -/
theorem Field.bytes_eq_iff {data data' : Bytes} {h h' : Header} {f : Field} (stands : data.HoldsAt f.offset (f.bytes h))
    (stands' : data'.HoldsAt f.offset (f.bytes h')) :
    f.bytes h = f.bytes h' ↔ ∀ i, f.Covers i → data[i]? = data'[i]? := by
  rw [← Field.holdsAt_iff.1 stands, ← Field.holdsAt_iff.1 stands', Array.toList_inj, Bytes.extract_eq_iff]
  exact forall_congr' fun i => and_imp.symm

/-! ## Headers that are accepted -/

/-- Whether a file starts with a header that is accepted: it is signed, has the mark, the version and the sector
size that belong together, and smaller mini sectors. -/
structure Acceptable (data : Bytes) : Prop where
  signed : Signed data
  mark : data.u16At? 0x1C = some 0xFFFE
  size : data.u16At? 0x1A = some 3 ∧ data.u16At? 0x1E = some 9 ∨ data.u16At? 0x1A = some 4 ∧ data.u16At? 0x1E = some 12
  mini : ∃ mini shift, data.u16At? 0x20 = some mini ∧ data.u16At? 0x1E = some shift ∧ mini < shift

theorem word16_eq_iff {data : Bytes} {offset : Nat} (inside : offset + 2 ≤ data.size) (w : UInt16) :
    word16 data offset = w ↔ data.u16At? offset = some w := by
  obtain ⟨v, found⟩ := Option.isSome_iff_exists.1 ((Bytes.u16At?_isSome data offset).2 inside)
  rw [word16, found, Option.getD_some, Option.some.injEq]

theorem sound_fields_iff {data : Bytes} (signed : Signed data) : (fields data).Sound ↔ Acceptable data := by
  have long := signed.1
  have word {offset : Nat} (inside : offset + 2 ≤ 512) (w : UInt16) :=
    word16_eq_iff (Nat.le_trans inside long) w
  simp only [Sound, sizeMatchesVersion, Bool.or_eq_true, Bool.and_eq_true, beq_iff_eq]
  constructor
  · rintro ⟨mark, size, mini⟩
    refine ⟨signed, (word (by decide) _).1 mark, ?_, _, _, (word (by decide) _).1 rfl, (word (by decide) _).1 rfl, mini⟩
    exact size.imp (fun h => ⟨(word (by decide) _).1 h.1, (word (by decide) _).1 h.2⟩)
      fun h => ⟨(word (by decide) _).1 h.1, (word (by decide) _).1 h.2⟩
  · rintro ⟨-, mark, size, mini, shift, hm, hs, less⟩
    refine ⟨(word (by decide) _).2 mark, ?_, ?_⟩
    · exact size.imp (fun h => ⟨(word (by decide) _).2 h.1, (word (by decide) _).2 h.2⟩)
        fun h => ⟨(word (by decide) _).2 h.1, (word (by decide) _).2 h.2⟩
    · have mini_eq : (fields data).miniSectorShift = mini := (word (by decide) _).2 hm
      have shift_eq : (fields data).sectorShift = shift := (word (by decide) _).2 hs
      rwa [mini_eq, shift_eq]

theorem exists_parse_iff {data : Bytes} : (∃ h, parse data = .ok h) ↔ Acceptable data := by
  simp only [parse_ok_iff]
  constructor
  · rintro ⟨h, signed, sound, rfl⟩
    exact (sound_fields_iff signed).1 sound
  · exact fun acceptable => ⟨_, acceptable.signed, (sound_fields_iff acceptable.signed).2 acceptable, rfl⟩

/-- A file without a header that is accepted is refused, as a damaged document or as none at all. -/
theorem kind_of_refused {data : Bytes} (damaged : ¬ Acceptable data) : ∃ fault, parse data = .error fault ∧
    (Error.header fault).kind = if Signed data then .corruptedFile else .unsupportedFormat := by
  obtain ⟨-, -, ok⟩ | ⟨unsigned, fault, refused, foreign⟩ | ⟨signed, -, fault, refused, own⟩ := parse_cases data
  · exact absurd (exists_parse_iff.1 ⟨_, ok⟩) damaged
  · exact ⟨fault, refused, by rw [if_neg unsigned, Error.kind, if_pos foreign]⟩
  · exact ⟨fault, refused, by rw [if_pos signed, Error.kind, if_neg (Bool.eq_false_iff.1 own)]⟩

theorem holdsAt_of_parse {data : Bytes} {h : Header} (parsed : parse data = .ok h) (f : Field) :
    data.HoldsAt f.offset (f.bytes h) := by
  obtain ⟨signed, -, read⟩ := parse_ok_iff.1 parsed
  exact (fields_eq_iff signed.1 h).1 read f

theorem signature_of_parse {data : Bytes} {h : Header} (parsed : parse data = .ok h) {i : Nat} (front : i < 8) :
    data[i]? = signature[i]? := by
  obtain ⟨rest, starts⟩ := (parse_ok_iff.1 parsed).1.2
  rw [← Array.getElem?_toList, ← starts, List.getElem?_append_left front]

/-- Two files have the same header iff they have the same bytes up to its end, but for the reserved ones. -/
theorem eq_iff_of_parse {data data' : Bytes} {h h' : Header} (parsed : parse data = .ok h)
    (parsed' : parse data' = .ok h') :
    h = h' ↔ ∀ i, i < 0x22 ∨ 0x28 ≤ i ∧ i < 0x200 → data[i]? = data'[i]? := by
  have alike (f : Field) := Field.bytes_eq_iff (holdsAt_of_parse parsed f) (holdsAt_of_parse parsed' f)
  refine ⟨?_, fun same => ?_⟩
  · rintro rfl i inside
    obtain front | behind : i < 8 ∨ (0x08 ≤ i ∧ i < 0x22 ∨ 0x28 ≤ i ∧ i < 0x200) := by omega
    · rw [signature_of_parse parsed front, signature_of_parse parsed' front]
    · obtain ⟨f, covers⟩ := (Field.exists_covers_iff i).2 behind
      exact (alike f).1 rfl i covers
  · obtain ⟨⟨long', -⟩, -, read'⟩ := parse_ok_iff.1 parsed'
    refine Eq.trans (((fields_eq_iff long' h).2 fun f => ?_).symm) read'
    have equal := (alike f).2 fun i covers => same i (((Field.exists_covers_iff i).1 ⟨f, covers⟩).imp_left And.right)
    rw [equal]
    exact holdsAt_of_parse parsed' f

/-- A header is accepted iff the file is signed and its mark, sizes and version are right; what is no compound
document, and what is a damaged one, is told apart. An encoded header is read back, whatever follows it. Each byte
behind the signature, but for the reserved ones, is in one field and in no other, and of two files whose headers are
accepted each field is the same iff its bytes are, so the headers are the same iff all bytes up to the end of the
header are, but for the reserved ones. -/
theorem parse_covers (data : Bytes) :
    ((∃ h, parse data = .ok h) ↔ Acceptable data) ∧
    (¬ Acceptable data → ∃ fault, parse data = .error fault ∧
      (Error.header fault).kind = if Signed data then .corruptedFile else .unsupportedFormat) ∧
    (∀ h : Header, h.encode.length = 512 ∧ (h.Sound → ∀ rest, parse (h.encode ++ rest).toArray = .ok h)) ∧
    (∀ i, 0x08 ≤ i ∧ i < 0x22 ∨ 0x28 ≤ i ∧ i < 0x200 → ∃! f : Field, f.Covers i) ∧
    (∀ (f : Field) i, f.Covers i → 0x08 ≤ i ∧ i < 0x22 ∨ 0x28 ≤ i ∧ i < 0x200) ∧
    ∀ h, parse data = .ok h → (∀ f : Field, data.HoldsAt f.offset (f.bytes h)) ∧
      ∀ data' h', parse data' = .ok h' →
        (∀ f : Field, f.bytes h = f.bytes h' ↔ ∀ i, f.Covers i → data[i]? = data'[i]?) ∧
        (h = h' ↔ ∀ i, i < 0x22 ∨ 0x28 ≤ i ∧ i < 0x200 → data[i]? = data'[i]?) := by
  have covered (i : Nat) (inside : 0x08 ≤ i ∧ i < 0x22 ∨ 0x28 ≤ i ∧ i < 0x200) : ∃! f : Field, f.Covers i := by
    obtain ⟨f, covers⟩ := (Field.exists_covers_iff i).2 inside
    exact ⟨f, covers, fun g other => other.unique covers⟩
  refine ⟨exists_parse_iff, kind_of_refused, fun h => ⟨h.length_encode, ?_⟩, covered, ?_, fun h parsed => ⟨?_, ?_⟩⟩
  · exact fun sound => parse_append sound.1 sound.2.1 sound.2.2
  · exact fun f i covers => (Field.exists_covers_iff i).1 ⟨f, covers⟩
  · exact holdsAt_of_parse parsed
  · exact fun data' h' parsed' =>
      ⟨fun f => Field.bytes_eq_iff (holdsAt_of_parse parsed f) (holdsAt_of_parse parsed' f),
        eq_iff_of_parse parsed parsed'⟩

/-- The bytes of a header whose reserved bytes are not zero, with a byte behind it. -/
def reservedBlank : Bytes := (blank.encode.take 0x22 ++ ([1, 2, 3, 4, 5, 6] ++ (blank.encode.drop 0x28 ++ [7]))).toArray

theorem signed_reservedBlank : Signed reservedBlank := by
  refine ⟨?_, by decide +kernel⟩
  rw [reservedBlank, List.size_toArray]
  simp only [List.length_append, List.length_take, List.length_drop, length_encode]
  decide

theorem agree_reservedBlank {i : Nat} (inside : i < 0x22 ∨ 0x28 ≤ i ∧ i < 0x200) :
    reservedBlank[i]? = blank.encode[i]? := by
  have length := blank.length_encode
  rw [reservedBlank, List.getElem?_toArray]
  obtain front | ⟨first, last⟩ := inside
  · rw [List.getElem?_append_left (by rw [List.length_take]; omega), List.getElem?_take_of_lt front]
  · have front : (blank.encode.take 0x22).length = 0x22 := by rw [List.length_take]; omega
    rw [List.getElem?_append_right (by omega), List.getElem?_append_right (by rw [front]; simp; omega),
      List.getElem?_append_left (by rw [front, List.length_drop]; simp; omega), List.getElem?_drop, front]
    exact congrArg (blank.encode[·]?) (by simp; omega)

/-- The reserved bytes, and what stands behind a header, make no difference. -/
theorem parse_covers_reserved : Acceptable reservedBlank ∧ blank.Sound ∧ parse reservedBlank = .ok blank := by
  have acceptable : Acceptable reservedBlank :=
    ⟨signed_reservedBlank, by decide +kernel, .inl (by decide +kernel), 6, 9, by decide +kernel, by decide +kernel,
      by decide⟩
  have sound : blank.Sound := by decide
  obtain ⟨accepts, -, encoded, -, -, reads⟩ := parse_covers reservedBlank
  obtain ⟨h, parsed⟩ := accepts.2 acceptable
  have plain := (encoded blank).2 sound []
  have same : h = blank := ((reads h parsed).2 _ blank plain).2.2 fun i inside => by
    rw [agree_reservedBlank inside, List.getElem?_toArray, List.append_nil]
  exact ⟨acceptable, sound, same ▸ parsed⟩

end DeckDump.Compound.Header
