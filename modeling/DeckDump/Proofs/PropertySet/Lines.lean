import DeckDump.Proofs.PropertySet.Layout
import DeckDump.Proofs.Text.Lines

/-!
# Lines of property sets

Which control characters the dump of a property set stream has. Names of entries and texts of slides are
escaped before they are shown; the strings of properties are not, and nothing else keeps their controls from
the dump:

* `Value.controls_text`: what is shown of a value has the controls of its string, and no others;
* `controls_dumpLines`: so the dump has those of its strings, between the line feeds of its lines;
* `cleanLines_dumpLines_iff`: it is as many clean lines as there should be iff no listed string has any;
* `read_lines`: what reading a stream shows;
* `forgedTitle`: a stream whose title shows a line that no property has.
-/

namespace DeckDump.PropertySet

namespace Value

/-- The string in a value; empty when it holds none. -/
def string : Value → String
  | narrow text => text
  | wide text => text
  | _ => ""

/-- What is shown of a value has the controls of its string, and no others. -/
theorem controls_text (v : Value) : Text.controls v.text = Text.controls v.string := by
  cases v with
  | empty => rfl
  | bool b => cases b <;> rfl
  | narrow shown => exact Text.controls_quoted shown
  | wide shown => exact Text.controls_quoted shown
  | int16 n | int32 n => exact Text.controls_signedDecimal n.toInt
  | uint32 n => exact Text.controls_decimal n.toNat
  | guid g => exact Guid.controls_text g
  | fileTime | blob | vector | other =>
    refine Eq.trans ?_ (show [] = _ from rfl)
    dsimp only [text]
    simp +decide

end Value

/-- The string that is shown for property number `j` of section number `i`; empty when none is. -/
def shownString (b : Bytes) (i j : Nat) : String :=
  if propertyId b i j = 0 then "" else ((Value.readAt? b (valueOffset b i j)).map Value.string).getD ""

/-- How many properties of section number `i` are listed. -/
def listedCount (b : Bytes) (i : Nat) : Nat := min (propertyCount b i) 1000

/-- The four lines of a section in front of its properties. -/
def frontLines (b : Bytes) (i : Nat) : List String :=
  placeLines i (placeAt b i) ++
    [s!"  Section size: {Value.numberAt b (sectionOffset b i)} bytes", s!"  Number of properties: {propertyCount b i}"]

/-- How many lines the dump of a sound stream should have. -/
def lineCount (b : Bytes) : Nat := 5 + Text.total ((List.range (sectionCount b)).map fun i => 4 + listedCount b i)

/-! ## Names -/

theorem controls_setName (set : Guid) : Text.controls (setName set) = [] := by
  unfold setName
  split_ifs <;> rfl

theorem controls_systemName (system : UInt32) : Text.controls (systemName system) = [] := by
  unfold systemName
  split <;> rfl

theorem controls_nameFrom {names : List String} (h : ∀ name ∈ names, Text.controls name = []) (id : UInt32) :
    Text.controls (nameFrom names id) = [] := by
  rw [nameFrom]
  split
  · rfl
  · exact Text.controls_getD h rfl _

theorem controls_propertyName (set : Guid) (id : UInt32) : Text.controls (propertyName set id) = [] := by
  unfold propertyName
  split_ifs
  case pos | pos | pos | pos => rfl
  case pos => exact controls_nameFrom (by decide) id
  case pos => exact controls_nameFrom (by decide) id
  case neg => rfl

/-! ## Lines -/

theorem controls_shownValue (b : Bytes) (i j : Nat) :
    Text.controls (shownValue b i j) = Text.controls (shownString b i j) := by
  rw [shownValue, shownString]
  split
  · rfl
  · cases Value.readAt? b (valueOffset b i j) with
    | none => rfl
    | some v => exact v.controls_text

/-- The line of a property has the controls of its string. -/
theorem controls_propertyLine (b : Bytes) (i j : Nat) :
    Text.controls (propertyLine b i j) = Text.controls (shownString b i j) := by
  have front : Text.controls ("  " ++ Text.padLeft 10 ' ' ("0x" ++ Text.hex 8 (propertyId b i j).toNat) ++ " " ++
      Text.padRight 20 ' ' (propertyName (placeAt b i).set (propertyId b i j)) ++ " ") = [] := by
    simp +decide [controls_propertyName]
  rw [propertyLine, Text.controls_append, front, controls_shownValue, List.nil_append]

/-- The other lines of a stream have no controls. -/
theorem controls_headerLines (b : Bytes) : ∀ l ∈ headerLines b, Text.controls l = [] := by
  simp +decide [headerLines, controls_systemName]

theorem controls_frontLines (b : Bytes) (i : Nat) : ∀ l ∈ frontLines b i, Text.controls l = [] := by
  simp +decide [frontLines, placeLines, controls_setName]

theorem sectionLines_eq (b : Bytes) (i : Nat) :
    sectionLines b i = frontLines b i ++ (List.range (listedCount b i)).map (propertyLine b i) := rfl

/-! ## Dumps -/

theorem dumpLines_of_sound {b : Bytes} (sound : Sound b) :
    dumpLines b = headerLines b ++ (List.range (sectionCount b)).flatMap (sectionLines b) := by
  rw [dumpLines, if_neg (not_or.2 ⟨Nat.not_lt.2 sound.header, not_not.2 sound.mark⟩),
    if_neg (Nat.not_lt.2 sound.table), listing_of_fits fun i mem => sound.sections i (List.mem_range.1 mem)]

/-- A sound stream has as many lines as it should have. -/
theorem length_dumpLines {b : Bytes} (sound : Sound b) : (dumpLines b).length = lineCount b := by
  have lengths (i : Nat) : (sectionLines b i).length = 4 + listedCount b i := by
    rw [sectionLines_eq, List.length_append, List.length_map, List.length_range]
    rfl
  rw [dumpLines_of_sound sound, List.length_append, Text.length_flatMap, lineCount]
  simp only [lengths]
  rfl

theorem controls_sectionLines (b : Bytes) (i : Nat) :
    Text.controls (Text.lineText (sectionLines b i)) = List.replicate 4 '\n' ++
      (List.range (listedCount b i)).flatMap fun j => Text.controls (shownString b i j) ++ ['\n'] := by
  have each : (fun l => Text.controls l ++ ['\n']) ∘ propertyLine b i =
      fun j => Text.controls (shownString b i j) ++ ['\n'] :=
    funext fun j => congrArg (· ++ ['\n']) (controls_propertyLine b i j)
  rw [sectionLines_eq, Text.lineText_append, Text.controls_append,
    Text.controls_lineText_of_clean (controls_frontLines b i), Text.controls_lineText, List.flatMap_map]
  exact congrArg (fun f => _ ++ List.flatMap f _) each

/-- Behind the header's five line feeds, each section has its four and those of its properties, with the
controls of the strings among them. -/
theorem controls_dumpLines {b : Bytes} (sound : Sound b) :
    Text.controls (Text.lineText (dumpLines b)) = List.replicate 5 '\n' ++
      (List.range (sectionCount b)).flatMap fun i => List.replicate 4 '\n' ++
        (List.range (listedCount b i)).flatMap fun j => Text.controls (shownString b i j) ++ ['\n'] := by
  have sections (is : List Nat) : Text.controls (Text.lineText (is.flatMap (sectionLines b))) =
      is.flatMap fun i => Text.controls (Text.lineText (sectionLines b i)) := by
    induction is with
    | nil => rfl
    | cons i is ih => rw [List.flatMap_cons, Text.lineText_append, Text.controls_append, ih, List.flatMap_cons]
  rw [dumpLines_of_sound sound, Text.lineText_append, Text.controls_append,
    Text.controls_lineText_of_clean (controls_headerLines b), sections]
  simp only [controls_sectionLines]
  rfl

/-- A dump is as many clean lines as it should be iff no listed string has a control character. -/
theorem cleanLines_dumpLines_iff {b : Bytes} (sound : Sound b) :
    Text.CleanLines (lineCount b) (Text.lineText (dumpLines b)) ↔
      ∀ i < sectionCount b, ∀ j < listedCount b i, Text.controls (shownString b i j) = [] := by
  rw [← length_dumpLines sound, Text.cleanLines_lineText_iff, dumpLines_of_sound sound]
  constructor
  · intro clean i section_i j listed
    rw [← controls_propertyLine]
    refine clean _ (List.mem_append_right _ (List.mem_flatMap.2 ⟨i, List.mem_range.2 section_i, ?_⟩))
    exact List.mem_append_right _ (List.mem_map_of_mem (List.mem_range.2 listed))
  · intro strings l mem
    rcases List.mem_append.1 mem with header | mem
    · exact controls_headerLines b l header
    obtain ⟨i, section_i, mem⟩ := List.mem_flatMap.1 mem
    rw [sectionLines_eq] at mem
    rcases List.mem_append.1 mem with front | mem
    · exact controls_frontLines b i l front
    · obtain ⟨j, listed, rfl⟩ := List.mem_map.1 mem
      rw [controls_propertyLine]
      exact strings i (List.mem_range.1 section_i) j (List.mem_range.1 listed)

/-- Reading a stream shows its lines. -/
theorem read_showsText (b : Bytes) : (read b).ShowsText (Text.lineText (dumpLines b)) := by
  rw [← run_script]
  exact Script.showsText (prints_script b).output

/-- A value that is stored for a property is the one whose string is shown. -/
theorem shownString_of_storedAt {b : Bytes} {i j : Nat} (named : propertyId b i j ≠ 0) {v : Value}
    (stored : Value.StoredAt b (valueOffset b i j) v) : shownString b i j = v.string := by
  rw [shownString, if_neg named, (Value.readAt?_eq_some_iff _ _ v).2 stored]
  rfl

/-- A stream that is read to its end, on a sink that never fails, shows one line for each property that is listed
and those above them. The strings of the properties alone add controls to the line feeds of these lines, so what is
shown is that many clean lines iff no string has any. -/
theorem read_lines (b : Bytes) (s : Session) (free : s.sink.NeverFails) (ok : (read b s).1 = .ok ()) :
    ∃ ls : List String, ls.length = lineCount b ∧
      (read b s).2.sink.written = s.sink.written ++ s.sink.shows (Text.lineText ls).toUTF8 ∧
      Text.controls (Text.lineText ls) = List.replicate 5 '\n' ++
        (List.range (sectionCount b)).flatMap (fun i => List.replicate 4 '\n' ++
          (List.range (listedCount b i)).flatMap fun j => Text.controls (shownString b i j) ++ ['\n']) ∧
      (Text.CleanLines (lineCount b) (Text.lineText ls) ↔
        ∀ i < sectionCount b, ∀ j < listedCount b i, Text.controls (shownString b i j) = []) ∧
      ∀ i j, propertyId b i j ≠ 0 → ∀ v, Value.StoredAt b (valueOffset b i j) v → shownString b i j = v.string := by
  have sound : Sound b := by
    rw [← run_script, Script.run_of_neverFails _ free] at ok
    exact (prints_script b).ends.1 ok
  exact ⟨dumpLines b, length_dumpLines sound, read_showsText b s free, controls_dumpLines sound,
    cleanLines_dumpLines_iff sound, fun i j named v => shownString_of_storedAt named⟩

/-- A stream with a title that has a line feed in it. -/
def forgedTitle : Bytes :=
  #[0xFE, 0xFF, 0, 0, 5, 0, 2, 0] ++ Array.replicate 16 0 ++ #[1, 0, 0, 0] ++
    summaryInformation.toArray ++ #[48, 0, 0, 0] ++
    #[28, 0, 0, 0, 1, 0, 0, 0, 2, 0, 0, 0, 16, 0, 0, 0] ++ #[30, 0, 0, 0, 4, 0, 0, 0, 0x61, 0x0A, 0x62, 0]

theorem sound_forgedTitle : Sound forgedTitle :=
  ⟨by decide, by decide +kernel, by decide +kernel, by decide +kernel⟩

theorem read_forgedTitle : (read forgedTitle {}).1 = .ok () := by
  rw [← run_script, Script.run_of_neverFails _ (.inr rfl)]
  exact (prints_script forgedTitle).ends.2 sound_forgedTitle

theorem shownString_forgedTitle : Text.controls (shownString forgedTitle 0 0) = ['\n'] := by decide +kernel

/-- The title alone keeps the dump from being clean. -/
theorem read_lines_forgedTitle :
    (read forgedTitle {}).1 = .ok () ∧ ∃ ls : List String, ls.length = 10 ∧
      (read forgedTitle {}).2.sink.written = (Text.lineText ls).toUTF8 ∧
      Text.controls (Text.lineText ls) = List.replicate 11 '\n' := by
  have free : ({} : Session).sink.NeverFails := .inr rfl
  obtain ⟨ls, count, written, controls, -⟩ := read_lines forgedTitle {} free read_forgedTitle
  refine ⟨read_forgedTitle, ls, by rw [count]; decide +kernel, ?_, ?_⟩
  · rw [written]
    exact ByteArray.empty_append
  · rw [controls]
    decide +kernel

/-- That a stream is read to its end does not make its dump as many clean lines as it should be. -/
theorem not_clean_forgedTitle :
    ¬ ∀ (b : Bytes) (s : Session), s.sink.NeverFails → (read b s).1 = .ok () →
      ∃ text, (read b s).2.sink.written = s.sink.written ++ s.sink.shows text.toUTF8 ∧
        Text.CleanLines (lineCount b) text := by
  intro all
  have free : ({} : Session).sink.NeverFails := .inr rfl
  obtain ⟨text, written, clean⟩ := all forgedTitle {} free read_forgedTitle
  rw [read_showsText forgedTitle {} free] at written
  have same : Text.lineText (dumpLines forgedTitle) = text := by
    refine String.toByteArray_inj.1 ?_
    simpa [Sink.shows] using written
  rw [← same, cleanLines_dumpLines_iff sound_forgedTitle] at clean
  -- the one listed string has a line feed in it
  have none := clean 0 (by decide +kernel) 0 (by decide +kernel)
  rw [shownString_forgedTitle] at none
  cases none

end DeckDump.PropertySet
