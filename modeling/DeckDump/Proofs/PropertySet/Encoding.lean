import DeckDump.Proofs.PropertySet.Layout
import DeckDump.Proofs.PropertySet.StoredValue

/-!
# Writing property sets

Property sets that are written as a stream are read back. Two halves meet at what a stream has to hold:

* `StoredProperty`, `StoredSection`, `StoredSet`: what is written;
* `StoredSection.HeldAt`, `StoredSet.HeldIn`: tables and values stand where the tables in front of them say;
* `StoredSet.lines`: what is to be shown, one line for each property;
* `dumpLines_of_heldIn`: that is shown of every stream that holds the sets;
* `StoredSet.encode`, `heldIn_of_holdsAt`: the stream that has all parts one behind the other is one, if its offsets
  are 32-bit numbers;
* `read_encoded`: so the sets are read back from such streams.
-/

namespace DeckDump.PropertySet

open Value (numberAt)

/-- A property as it is stored; the number zero is that of a dictionary. -/
structure StoredProperty where
  id : UInt32
  value : StoredValue
  named : id ≠ 0

/-- A section as it is stored, none of whose properties is left out of a listing. -/
structure StoredSection where
  set : Guid
  properties : List StoredProperty
  few : properties.length ≤ 1000

/-- A property set stream as it is stored. -/
structure StoredSet where
  version : UInt16
  system : UInt32
  clsid : Guid
  sections : List StoredSection

/-! ## What a stream holds -/

/-- Whether the section stands at `offset`: its number of properties, its table, and each value where the table
places it. -/
structure StoredSection.HeldAt (b : Bytes) (offset : Nat) (s : StoredSection) : Prop where
  count : b.u32At? (offset + 4) = some (UInt32.ofNat s.properties.length)
  property : ∀ j p, s.properties[j]? = some p → b.u32At? (offset + 8 + 8 * j) = some p.id ∧
    ∃ place, b.u32At? (offset + 8 + 8 * j + 4) = some place ∧ b.HoldsAt (offset + place.toNat) p.value.bytes

/-- What is in front of the number of sections. -/
def StoredSet.front (set : StoredSet) : List UInt8 :=
  bytesOf16 0xFFFE ++ bytesOf16 set.version ++ bytesOf32 set.system ++ set.clsid.toList

/-- Whether the stream holds the sets: the header, the table of sections, and each section where the table
places it. -/
structure StoredSet.HeldIn (b : Bytes) (set : StoredSet) : Prop where
  front : b.HoldsAt 0 set.front
  count : ∃ n, b.u32At? 24 = some n ∧ n.toNat = set.sections.length
  placed : ∀ i s, set.sections[i]? = some s → b.HoldsAt (28 + 20 * i) s.set.toList ∧
    ∃ place, b.u32At? (28 + 20 * i + 16) = some place ∧ s.HeldAt b place.toNat

/-! ## What is shown -/

/-- The line of a property. -/
def StoredProperty.line (set : Guid) (p : StoredProperty) : String :=
  "  " ++ Text.padLeft 10 ' ' ("0x" ++ Text.hex 8 p.id.toNat) ++ " " ++
    Text.padRight 20 ' ' (propertyName set p.id) ++ " " ++ p.value.text

/-- The lines of section number `i`; where it is and its size are what the stream says. -/
def StoredSection.lines (b : Bytes) (i : Nat) (s : StoredSection) : List String :=
  ["", s!"Property set {i}: {s.set.text} ({setName s.set}), offset {sectionOffset b i}",
    s!"  Section size: {numberAt b (sectionOffset b i)} bytes",
    s!"  Number of properties: {s.properties.length}"] ++ s.properties.map (StoredProperty.line s.set)

/-- The lines of the header. -/
def StoredSet.frontLines (set : StoredSet) : List String :=
  ["Byte order: 0xFFFE", s!"Version: {set.version.toNat}",
    s!"System identifier: 0x{Text.hex 8 set.system.toNat} ({systemName set.system})",
    s!"CLSID: {set.clsid.text}", s!"Number of property sets: {set.sections.length}"]

/-- The lines of the header, and those of the sections in order. -/
def StoredSet.lines (b : Bytes) (set : StoredSet) : List String :=
  set.frontLines ++ set.sections.zipIdx.flatMap fun (s, i) => s.lines b i

/-- What is made of the numbers of a list's places may be made of the list. -/
theorem map_range_eq {α β : Type} {xs : List α} {f : Nat → β} {g : α → β}
    (same : ∀ i x, xs[i]? = some x → f i = g x) : (List.range xs.length).map f = xs.map g := by
  refine List.ext_getElem (by simp) fun i _ inside => ?_
  rw [List.length_map] at inside
  rw [List.getElem_map, List.getElem_map, List.getElem_range]
  exact same i _ (List.getElem?_eq_getElem inside)

section

variable {b : Bytes} {set : StoredSet}

/-- A value that is held is shown. -/
theorem propertyLine_of_heldAt {s : StoredSection} {i j : Nat} {p : StoredProperty}
    (held : s.HeldAt b (sectionOffset b i)) (set_eq : (placeAt b i).set = s.set) (at_j : s.properties[j]? = some p) :
    propertyLine b i j = p.line s.set := by
  obtain ⟨id, place, told, value⟩ := held.property j p at_j
  have id_eq : propertyId b i j = p.id := by rw [propertyId, entryOffset, id, Option.getD_some]
  have offset_eq : valueOffset b i j = sectionOffset b i + place.toNat := by
    rw [valueOffset, entryOffset, numberAt, told, Option.getD_some]
  obtain ⟨w, read, shown⟩ := StoredValue.readAt?_of_holdsAt value
  have value_eq : shownValue b i j = p.value.text := by
    rw [shownValue, id_eq, if_neg p.named, offset_eq, read]
    exact shown
  simp only [propertyLine, id_eq, value_eq, set_eq, StoredProperty.line]

/-- A section that is held fits, and shows its lines. -/
theorem sectionLines_of_heldAt {s : StoredSection} {i : Nat} (held : s.HeldAt b (sectionOffset b i))
    (set_eq : (placeAt b i).set = s.set) : SectionFits b i ∧ sectionLines b i = s.lines b i := by
  have few := s.few
  have count_eq : propertyCount b i = s.properties.length := by
    rw [propertyCount, numberAt, held.count, Option.getD_some]
    exact UInt32.toNat_ofNat_of_lt' (Nat.lt_of_le_of_lt few (by decide))
  have place_eq : placeAt b i = ⟨s.set, sectionOffset b i⟩ := by rw [← set_eq, ← placeAt_offset]
  have counted := (b.u32At?_isSome _).1 (Option.isSome_of_eq_some held.count)
  refine ⟨⟨by omega, ?_⟩, ?_⟩
  · -- the table ends with the place of the last property
    rw [count_eq]
    by_cases empty : s.properties.length = 0
    · omega
    · have last := List.getElem?_eq_getElem (show s.properties.length - 1 < s.properties.length by omega)
      obtain ⟨-, place, told, -⟩ := held.property _ _ last
      have inside := (b.u32At?_isSome _).1 (Option.isSome_of_eq_some told)
      omega
  · have properties : (List.range (min (propertyCount b i) 1000)).map (propertyLine b i) =
        s.properties.map (StoredProperty.line s.set) := by
      rw [count_eq, Nat.min_eq_left few]
      exact map_range_eq fun j p at_j => propertyLine_of_heldAt held set_eq at_j
    rw [sectionLines, properties, count_eq, place_eq]
    rfl

/-- Where the table places a section that is held. -/
theorem StoredSet.HeldIn.stands (held : set.HeldIn b) {i : Nat} {s : StoredSection} (at_i : set.sections[i]? = some s) :
    (placeAt b i).set = s.set ∧ s.HeldAt b (sectionOffset b i) ∧ 28 + 20 * i + 20 ≤ b.size := by
  obtain ⟨fmtid, place, told, there⟩ := held.placed i s at_i
  have offset_eq : sectionOffset b i = place.toNat := by rw [sectionOffset, numberAt, told, Option.getD_some]
  have set_eq : (placeAt b i).set = s.set := by
    have pos : headerSize + i * placeSize = 28 + 20 * i := congrArg (28 + ·) (Nat.mul_comm i 20)
    rw [placeAt, pos, fmtid.guidAt?, Option.getD_some]
  have inside := (b.u32At?_isSome _).1 (Option.isSome_of_eq_some told)
  exact ⟨set_eq, offset_eq ▸ there, by omega⟩

theorem headerLines_of_heldIn (held : set.HeldIn b) : headerLines b = set.frontLines := by
  obtain ⟨n, count, number⟩ := held.count
  have front := held.front
  simp only [StoredSet.front, Bytes.holdsAt_append, List.length_append, length_bytesOf16, length_bytesOf32,
    Nat.reduceAdd] at front
  obtain ⟨⟨⟨mark, version⟩, system⟩, clsid⟩ := front
  have byteOrder : "Byte order: 0x" ++ Text.hex 4 (0xFFFE : UInt16).toNat = "Byte order: 0xFFFE" := by decide
  rw [headerLines, mark.u16At?, version.u16At?, system.u32At?, clsid.guidAt?, count]
  dsimp only [Option.getD_some]
  rw [number, StoredSet.frontLines]
  exact congrArg (· :: _) byteOrder

/-- A stream that holds the sets is sound, and shows their lines. -/
theorem dumpLines_of_heldIn (held : set.HeldIn b) : Sound b ∧ dumpLines b = set.lines b := by
  obtain ⟨n, count, number⟩ := held.count
  have count_eq : sectionCount b = set.sections.length := by
    rw [sectionCount, numberAt, count, Option.getD_some, number]
  have header : 28 ≤ b.size := (b.u32At?_isSome 24).1 (Option.isSome_of_eq_some count)
  have mark : b.u16At? 0 = some 0xFFFE := by
    have front := held.front
    simp only [StoredSet.front, List.append_assoc] at front
    exact (Bytes.holdsAt_append.1 front).1.u16At?
  have stored {i : Nat} {s : StoredSection} (at_i : set.sections[i]? = some s) :
      SectionFits b i ∧ sectionLines b i = s.lines b i := by
    obtain ⟨set_eq, there, -⟩ := held.stands at_i
    exact sectionLines_of_heldAt there set_eq
  have fits : ∀ i ∈ List.range (sectionCount b), SectionFits b i := by
    intro i mem
    rw [List.mem_range, count_eq] at mem
    exact (stored (List.getElem?_eq_getElem mem)).1
  have table : 28 + 20 * sectionCount b ≤ b.size := by
    rw [count_eq]
    by_cases empty : set.sections.length = 0
    · omega
    · have last := List.getElem?_eq_getElem (show set.sections.length - 1 < set.sections.length by omega)
      obtain ⟨-, -, inside⟩ := held.stands last
      omega
  refine ⟨⟨header, mark, table, fun i inside => fits i (List.mem_range.2 inside)⟩, ?_⟩
  have lines : (List.range (sectionCount b)).map (sectionLines b) =
      set.sections.zipIdx.map fun (s, i) => s.lines b i := by
    rw [count_eq, ← List.length_zipIdx]
    refine map_range_eq fun i x at_i => ?_
    rw [List.getElem?_zipIdx] at at_i
    obtain ⟨s, at_s, rfl⟩ := Option.map_eq_some_iff.1 at_i
    rw [(stored at_s).2, Nat.zero_add]
  rw [dumpLines, if_neg (not_or.2 ⟨Nat.not_lt.2 header, not_not.2 mark⟩), if_neg (Nat.not_lt.2 table),
    listing_of_fits fits, headerLines_of_heldIn held, StoredSet.lines, List.flatMap_def, List.flatMap_def, lines]

end

/-! ## A stream that holds the sets -/

/-- A section with its values one behind the other. -/
def StoredSection.encode (s : StoredSection) : List UInt8 :=
  let values := s.properties.flatMap (·.value.padded)
  let stop := 8 + 8 * s.properties.length
  bytesOf32 (UInt32.ofNat (stop + values.length)) ++ bytesOf32 (UInt32.ofNat s.properties.length) ++
    Bytes.placeTable (fun p => bytesOf32 p.id) (·.value.padded) stop s.properties ++ values

/-- A stream with its sections one behind the other. -/
def StoredSet.encode (set : StoredSet) : List UInt8 :=
  set.front ++ bytesOf32 (UInt32.ofNat set.sections.length) ++
    Bytes.placeTable (·.set.toList) (·.encode) (28 + 20 * set.sections.length) set.sections ++
    set.sections.flatMap (·.encode)

/-- Whether the offsets of sections in the stream, and those of values in their sections, are 32-bit numbers. -/
structure StoredSet.Addressable (set : StoredSet) : Prop where
  sections : ∀ i < set.sections.length,
    28 + 20 * set.sections.length + ((set.sections.take i).flatMap (·.encode)).length < 0x100000000
  values : ∀ s ∈ set.sections, ∀ j < s.properties.length,
    8 + 8 * s.properties.length + ((s.properties.take j).flatMap (·.value.padded)).length < 0x100000000

/-- A section is held where its bytes stand. -/
theorem heldAt_of_holdsAt {b : Bytes} {offset : Nat} {s : StoredSection} (h : b.HoldsAt offset s.encode)
    (addressable : ∀ j < s.properties.length,
      8 + 8 * s.properties.length + ((s.properties.take j).flatMap (·.value.padded)).length < 0x100000000) :
    s.HeldAt b offset := by
  simp only [StoredSection.encode, Bytes.holdsAt_append, List.length_append, length_bytesOf32,
    Bytes.length_placeTable fun p : StoredProperty => length_bytesOf32 p.id] at h
  obtain ⟨⟨⟨-, count⟩, table⟩, values⟩ := h
  refine ⟨count.u32At?, fun j p at_j => ?_⟩
  obtain ⟨key, told⟩ := table.placeTable (fun p : StoredProperty => length_bytesOf32 p.id) at_j
  have inside := (List.getElem?_eq_some_iff.1 at_j).1
  have value := (Bytes.holdsAt_append.1 (values.flatMap at_j)).1
  have entry : offset + (4 + 4) + j * (4 + 4) = offset + 8 + 8 * j := by omega
  rw [entry] at key told
  refine ⟨key.u32At?, _, told, ?_⟩
  rw [UInt32.toNat_ofNat_of_lt' (addressable j inside), ← Nat.add_assoc]
  have behind : offset + (8 + 8 * s.properties.length) = offset + (4 + 4 + s.properties.length * (4 + 4)) := by omega
  rw [behind]
  exact value

theorem length_front (set : StoredSet) : set.front.length = 24 := by
  have guid : set.clsid.toList.length = 16 := set.clsid.length_toList
  simp only [StoredSet.front, List.length_append, length_bytesOf16, length_bytesOf32, guid]

/-- A stream with its sections one behind the other holds them. -/
theorem heldIn_of_holdsAt {b : Bytes} {set : StoredSet} (h : b.HoldsAt 0 set.encode) (addressable : set.Addressable) :
    set.HeldIn b := by
  have keys (s : StoredSection) : s.set.toList.length = 16 := s.set.length_toList
  simp only [StoredSet.encode, Bytes.holdsAt_append, List.length_append, length_bytesOf32, length_front,
    Bytes.length_placeTable keys, Nat.zero_add] at h
  obtain ⟨⟨⟨front, count⟩, table⟩, sections⟩ := h
  refine ⟨front, ⟨_, count.u32At?, UInt32.toNat_ofNat_of_lt' ?_⟩, fun i s at_i => ?_⟩
  · -- the last section is behind the table, and its offset is a 32-bit number
    show set.sections.length < 0x100000000
    by_cases empty : set.sections.length = 0
    · omega
    · have last := addressable.sections (set.sections.length - 1) (by omega)
      omega
  · have inside := (List.getElem?_eq_some_iff.1 at_i).1
    obtain ⟨key, told⟩ := table.placeTable keys at_i
    have entry : 24 + 4 + i * (16 + 4) = 28 + 20 * i := by omega
    rw [entry] at key told
    refine ⟨key, _, told, ?_⟩
    rw [UInt32.toNat_ofNat_of_lt' (addressable.sections i inside)]
    have behind : 28 + 20 * set.sections.length = 24 + 4 + set.sections.length * (16 + 4) := by omega
    rw [behind]
    exact heldAt_of_holdsAt (sections.flatMap at_i) (addressable.values s (List.mem_of_getElem? at_i))

/-- On a sink that never fails, property sets are read back from every stream that holds them, and show one line for
each property. -/
theorem read_encoded (set : StoredSet) (s : Session) (free : s.sink.NeverFails) :
    (∀ b, set.HeldIn b → (read b s).1 = .ok () ∧
      (read b s).2.sink.written = s.sink.written ++ s.sink.shows (shownLines (set.lines b))) ∧
    (set.Addressable → set.HeldIn set.encode.toArray) := by
  refine ⟨fun b held => ?_, heldIn_of_holdsAt (Bytes.holdsAt_whole _)⟩
  obtain ⟨sound, lines⟩ := dumpLines_of_heldIn held
  have prints := prints_script b
  rw [← run_script, Script.run_of_neverFails _ free, ← lines, ← prints.output]
  exact ⟨prints.ends.2 sound, rfl⟩

/-- A title with a zero and more behind its text, and a negative number that has no name. -/
def titled : StoredSection where
  set := summaryInformation
  properties := [⟨2, .narrow [72, 105, 0, 33, 33] (by decide), by decide⟩, ⟨99, .int16 (-5), by decide⟩]
  few := by decide

/-- This section, and one of no properties. -/
def twoSets : StoredSet := ⟨0, 0x00020006, Guid.nil, [titled, ⟨userDefinedProperties, [], by decide⟩]⟩

/-- The lines of these sets behind those of the header. -/
theorem read_encoded_twoSets :
    (default : Session).sink.NeverFails ∧ twoSets.Addressable ∧ twoSets.HeldIn twoSets.encode.toArray ∧
      (read twoSets.encode.toArray default).1 = .ok () ∧
      (twoSets.lines twoSets.encode.toArray).drop 5 =
        ["", "Property set 0: F29F85E0-4FF9-1068-AB91-08002B27B3D9 (SummaryInformation), offset 68",
          "  Section size: 48 bytes", "  Number of properties: 2",
          "  0x00000002 Title                \"Hi\"", "  0x00000063                      -5",
          "", "Property set 1: D5CDD505-2E9C-101B-9397-08002B2CF9AE (UserDefinedProperties), offset 116",
          "  Section size: 8 bytes", "  Number of properties: 0"] := by
  have free : (default : Session).sink.NeverFails := .inr rfl
  have addressable : twoSets.Addressable := ⟨by decide +kernel, by decide +kernel⟩
  obtain ⟨reads, holds⟩ := read_encoded twoSets default free
  have held := holds addressable
  exact ⟨free, addressable, held, (reads _ held).1, by decide +kernel⟩

end DeckDump.PropertySet
