import DeckDump.Proofs.PropertySet.Script
import DeckDump.Proofs.PropertySet.Value
import DeckDump.Proofs.Sink
import Mathlib.Data.List.TakeWhile

/-!
# The layout of property sets

Which strings are property set streams, and what is shown of any string:

* `SectionFits`, `Sound`: what the header, the table of sections and the sections have to satisfy;
* `dumpLines`: the lines of a stream, up to the title of the first section that does not fit;
* `Prints`: how a script ends and the lines it shows, and how that is put together;
* `prints_sectionsScript`: any number of sections, from any one on;
* `read_layout`: the reading succeeds iff the stream is sound, and shows its lines either way.
-/

namespace DeckDump.PropertySet

open Value (numberAt StoredAt Complete)

/-- The number of sections that the header gives. -/
def sectionCount (b : Bytes) : Nat := numberAt b 24

/-- Where the table places section number `i`. -/
def sectionOffset (b : Bytes) (i : Nat) : Nat := numberAt b (28 + 20 * i + 16)

/-- The number of properties that section number `i` gives. -/
def propertyCount (b : Bytes) (i : Nat) : Nat := numberAt b (sectionOffset b i + 4)

/-- Where section number `i` has the entry of property number `j`. -/
def entryOffset (b : Bytes) (i j : Nat) : Nat := sectionOffset b i + 8 + 8 * j

/-- Where section number `i` places the value of property number `j`. -/
def valueOffset (b : Bytes) (i j : Nat) : Nat := sectionOffset b i + numberAt b (entryOffset b i j + 4)

/-- Whether section number `i` has its size, its count and its table inside the string. -/
def SectionFits (b : Bytes) (i : Nat) : Prop :=
  sectionOffset b i + 8 ≤ b.size ∧ sectionOffset b i + 8 + 8 * propertyCount b i ≤ b.size

instance (b : Bytes) (i : Nat) : Decidable (SectionFits b i) := inferInstanceAs (Decidable (_ ∧ _))

/-- Whether a string is a property set stream. The values of its properties do not matter. -/
structure Sound (b : Bytes) : Prop where
  header : 28 ≤ b.size
  mark : b.u16At? 0 = some 0xFFFE
  table : 28 + 20 * sectionCount b ≤ b.size
  sections : ∀ i < sectionCount b, SectionFits b i

/-- The identifier of property number `j` of section number `i`. -/
def propertyId (b : Bytes) (i j : Nat) : UInt32 := (b.u32At? (entryOffset b i j)).getD 0

/-- What is shown for property number `j` of section number `i`. -/
def shownValue (b : Bytes) (i j : Nat) : String :=
  if propertyId b i j = 0 then "(dictionary)"
  else match Value.readAt? b (valueOffset b i j) with
    | some v => v.text
    | none => "(value out of range)"

/-- The line of property number `j` of section number `i`. -/
def propertyLine (b : Bytes) (i j : Nat) : String :=
  let id := propertyId b i j
  "  " ++ Text.padLeft 10 ' ' ("0x" ++ Text.hex 8 id.toNat) ++ " " ++
    Text.padRight 20 ' ' (propertyName (placeAt b i).set id) ++ " " ++ shownValue b i j

/-- The lines of section number `i`: its title, its size and count, and its first thousand properties. -/
def sectionLines (b : Bytes) (i : Nat) : List String :=
  placeLines i (placeAt b i) ++
    [s!"  Section size: {numberAt b (sectionOffset b i)} bytes", s!"  Number of properties: {propertyCount b i}"] ++
    (List.range (min (propertyCount b i) 1000)).map (propertyLine b i)

/-- The lines of sections up to the first that does not fit; of that one, the title alone. -/
def listing (b : Bytes) (is : List Nat) : List String :=
  (is.takeWhile fun i => SectionFits b i).flatMap (sectionLines b) ++
    ((is.dropWhile fun i => SectionFits b i).take 1).flatMap fun i => placeLines i (placeAt b i)

/-- All lines that are shown of a string. -/
def dumpLines (b : Bytes) : List String :=
  if b.size < 28 ∨ b.u16At? 0 ≠ some 0xFFFE then []
  else if b.size < 28 + 20 * sectionCount b then headerLines b
  else headerLines b ++ listing b (List.range (sectionCount b))

/-! ## Sections -/

theorem placeAt_offset (b : Bytes) (i : Nat) : (placeAt b i).offset = sectionOffset b i := by
  rw [placeAt, sectionOffset, headerSize, placeSize, Nat.mul_comm i 20]
  rfl

theorem readAt_line (b : Bytes) (i j : Nat) :
    (Property.readAt b (sectionOffset b i) j).line (placeAt b i).set = propertyLine b i j := by
  have entry : sectionOffset b i + 8 + j * 8 = entryOffset b i j := by rw [entryOffset, Nat.mul_comm]
  simp only [Property.readAt, Property.line, Property.valueText, entry]
  rfl

/-- A section that fits is shown by its lines. -/
theorem readAt_of_fits {b : Bytes} {i : Nat} (fits : SectionFits b i) :
    ∃ s, Section.readAt b (placeAt b i).offset = .ok s ∧
      placeLines i (placeAt b i) ++ s.sizeLines ++ s.properties.map (Property.line (placeAt b i).set) =
        sectionLines b i := by
  obtain ⟨header, table⟩ := fits
  rw [placeAt_offset]
  obtain ⟨size, hsize⟩ := Option.isSome_iff_exists.1 ((b.u32At?_isSome (sectionOffset b i)).2 (by omega))
  obtain ⟨count, hcount⟩ := Option.isSome_iff_exists.1 ((b.u32At?_isSome (sectionOffset b i + 4)).2 (by omega))
  have number : propertyCount b i = count.toNat := by rw [propertyCount, numberAt, hcount, Option.getD_some]
  have first : numberAt b (sectionOffset b i) = size.toNat := by rw [numberAt, hsize, Option.getD_some]
  rw [number] at table
  refine ⟨⟨size, count.toNat, (List.range (min count.toNat maxListed)).map (Property.readAt b (sectionOffset b i))⟩,
    by simp only [Section.readAt, hsize, hcount, if_pos table], ?_⟩
  have properties : (Property.line (placeAt b i).set) ∘ Property.readAt b (sectionOffset b i) = propertyLine b i :=
    funext (readAt_line b i)
  rw [sectionLines, first, number, List.map_map, properties]
  rfl

/-- A section that does not fit is refused. -/
theorem readAt_of_not_fits {b : Bytes} {i : Nat} (fits : ¬ SectionFits b i) :
    ∃ fault, Section.readAt b (placeAt b i).offset = .error fault := by
  rw [placeAt_offset, Section.readAt]
  cases hcount : b.u32At? (sectionOffset b i + 4) with
  | none => exact ⟨.sectionHeader (sectionOffset b i), by cases b.u32At? (sectionOffset b i) <;> rfl⟩
  | some count =>
    have header := (b.u32At?_isSome (sectionOffset b i + 4)).1 (by rw [hcount]; rfl)
    have number : propertyCount b i = count.toNat := by rw [propertyCount, numberAt, hcount, Option.getD_some]
    obtain ⟨size, hsize⟩ := Option.isSome_iff_exists.1 ((b.u32At?_isSome (sectionOffset b i)).2 (by omega))
    rw [hsize]
    refine ⟨.propertyTable count.toNat (sectionOffset b i), if_neg fun table => fits ⟨by omega, ?_⟩⟩
    rwa [number]

/-- Sections that all fit show all their lines. -/
theorem listing_of_fits {b : Bytes} {is : List Nat} (fits : ∀ i ∈ is, SectionFits b i) :
    listing b is = is.flatMap (sectionLines b) := by
  have all : ∀ i ∈ is, decide (SectionFits b i) = true := fun i mem => decide_eq_true (fits i mem)
  rw [listing, List.takeWhile_eq_self_iff.2 all, List.dropWhile_eq_nil_iff.2 all, List.take_nil, List.flatMap_nil,
    List.append_nil]

/-! ## Scripts -/

/-- Whether a script ends well under a condition, and shows the given lines either way. -/
structure Prints (x : Script Unit) (good : Prop) (ls : List String) : Prop where
  ends : x.result = .ok () ↔ good
  output : outputOf x.steps = shownLines ls

namespace Prints

theorem pure : Prints (Pure.pure ()) True [] := ⟨iff_of_true rfl trivial, rfl⟩

theorem fail (e : Error) : Prints (Script.fail e) False [] := ⟨iff_of_false nofun id, rfl⟩

theorem lines (ls : List String) : Prints (Script.lines ls) True ls := ⟨iff_of_true rfl trivial, output_lines ls⟩

theorem note (e : Event) : Prints (Script.ofSteps [.note e]) True [] := ⟨iff_of_true rfl trivial, rfl⟩

/-- Behind a script that ends well, the next one follows. -/
theorem bind {x : Script Unit} {f : Unit → Script Unit} {good : Prop} {ls ms : List String} (first : Prints x True ls)
    (next : Prints (f ()) good ms) : Prints (x >>= f) good (ls ++ ms) := by
  have ok := first.ends.2 trivial
  obtain ⟨xs, r⟩ := x
  subst ok
  refine ⟨next.ends, ?_⟩
  rw [Script.bind_def, outputOf_append, first.output, next.output, shownLines_append]

/-- Behind a script that fails, nothing follows. -/
theorem bind_fail {x : Script Unit} {f : Unit → Script Unit} {ls : List String} (first : Prints x False ls) :
    Prints (x >>= f) False ls := by
  obtain ⟨xs, e | a⟩ := x
  · exact ⟨iff_of_false nofun id, first.output⟩
  · exact (first.ends.1 rfl).elim

/-- A condition that always holds, or never, may be put for another. -/
theorem congr {x : Script Unit} {good good' : Prop} {ls : List String} (h : Prints x good ls) (iff : good ↔ good') :
    Prints x good' ls :=
  ⟨h.ends.trans iff, h.output⟩

end Prints

theorem Section.prints_script (set : Guid) (s : Section) :
    Prints (s.script set) True (s.sizeLines ++ s.properties.map (Property.line set)) := by
  refine .bind (.lines _) ?_
  split
  · exact .bind (.note _) (.lines _)
  · exact .lines _

/-- Sections are shown up to the first that does not fit, and the script ends well iff there is none. -/
theorem prints_sectionsScript (b : Bytes) (count i : Nat) :
    Prints (sectionsScript b count i) (∀ j ∈ List.range' i count, SectionFits b j)
      (listing b (List.range' i count)) := by
  induction count generalizing i with
  | zero => exact Prints.pure.congr (by simp)
  | succ count ih =>
    have range : List.range' i (count + 1) = i :: List.range' (i + 1) count := rfl
    rw [range, sectionsScript]
    by_cases fits : SectionFits b i
    · obtain ⟨s, found, shown⟩ := readAt_of_fits fits
      have lines : listing b (i :: List.range' (i + 1) count) = placeLines i (placeAt b i) ++
          (s.sizeLines ++ s.properties.map (Property.line (placeAt b i).set) ++
            listing b (List.range' (i + 1) count)) := by
        simp only [listing, List.takeWhile_cons, List.dropWhile_cons, fits, decide_true, if_true, List.flatMap_cons,
          ← shown, List.append_assoc]
      rw [lines, found]
      refine Prints.congr (.bind (.lines _) (.bind (s.prints_script _) (ih (i + 1)))) ?_
      rw [List.forall_mem_cons]
      exact (and_iff_right fits).symm
    · obtain ⟨fault, refused⟩ := readAt_of_not_fits fits
      have lines : listing b (i :: List.range' (i + 1) count) = placeLines i (placeAt b i) ++ [] := by
        simp only [listing, List.takeWhile_cons, List.dropWhile_cons, fits, decide_false, Bool.false_eq_true, if_false,
          List.flatMap_nil, List.nil_append, List.take_succ_cons, List.take_zero, List.flatMap_cons]
      rw [lines, refused]
      refine Prints.congr (.bind (.lines _) (.bind_fail (.fail _))) ?_
      exact iff_of_false id fun all => fits (all i List.mem_cons_self)

/-- Reading ends well iff the stream is sound, and shows its lines either way. -/
theorem prints_script (b : Bytes) : Prints (script b) (Sound b) (dumpLines b) := by
  have mark : (b.u16At? 0).getD 0 ≠ 0xFFFE ↔ b.u16At? 0 ≠ some 0xFFFE := by cases b.u16At? 0 <;> simp
  have stop : headerSize + ((b.u32At? 24).getD 0).toNat * placeSize = 28 + 20 * sectionCount b := by
    rw [sectionCount, numberAt, headerSize, placeSize, Nat.mul_comm]
  simp only [script, dumpLines, mark, stop]
  by_cases short : b.size < headerSize
  · rw [if_pos short, if_pos (.inl short)]
    exact (Prints.fail _).congr (iff_of_false id fun sound => Nat.not_lt.2 sound.header short)
  rw [if_neg short]
  by_cases marked : b.u16At? 0 = some 0xFFFE
  · have opened : ¬ (b.size < 28 ∨ b.u16At? 0 ≠ some 0xFFFE) := not_or.2 ⟨short, not_not.2 marked⟩
    rw [if_neg (not_not.2 marked), if_neg opened]
    by_cases table : 28 + 20 * sectionCount b ≤ b.size
    · rw [if_pos table, if_neg (Nat.not_lt.2 table), List.range_eq_range', ← List.nil_append (listing b _)]
      refine Prints.congr (.bind (.lines _) (.bind (.note _) (prints_sectionsScript b (sectionCount b) 0))) ?_
      exact ⟨fun fit => ⟨Nat.not_lt.1 short, marked, table, fun i h => fit i (by simpa using h)⟩,
        fun sound i h => sound.sections i (by simpa using h)⟩
    · rw [if_neg table, if_pos (Nat.lt_of_not_le table), ← List.append_nil (headerLines b)]
      exact Prints.congr (.bind (.lines _) (.fail _)) (iff_of_false id fun sound => table sound.table)
  · rw [if_pos marked, if_pos (.inr marked)]
    exact (Prints.fail _).congr (iff_of_false id fun sound => marked sound.mark)

/-! ## Values -/

end DeckDump.PropertySet
