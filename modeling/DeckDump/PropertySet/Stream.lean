import DeckDump.PropertySet.Name
import DeckDump.PropertySet.Value
import DeckDump.Report.Basic

/-!
# Property set streams

A header, a table that places the sections, and for each section its size, the number of its
properties, and a table that places their values inside the section. A section that does not fit
ends the reading; a property value that does not fit is shown as such.
-/

namespace DeckDump.PropertySet

/-- How many bytes the header has. -/
def headerSize : Nat := 28

/-- How many bytes the table has for each section. -/
def placeSize : Nat := 20

/-- How many properties of a section are listed. -/
def maxListed : Nat := 1000

/-- Where a section is, and the identifier that says what it holds. -/
structure Place where
  set : Guid
  offset : Nat
deriving DecidableEq

/-- A property as its section's table lists it; a value that is cut short is `none`. -/
structure Property where
  id : UInt32
  value : Option Value
deriving DecidableEq

/-- A section of a property set stream. -/
structure Section where
  size : UInt32
  /-- How many properties the section has. -/
  count : Nat
  /-- The properties that are listed, at most the first thousand. -/
  properties : List Property
deriving DecidableEq

namespace Property

/-- Entry number `i` of the table of the section at `offset`. -/
def readAt (b : Bytes) (offset i : Nat) : Property :=
  let entry := offset + 8 + i * 8
  let place := ((b.u32At? (entry + 4)).getD 0).toNat
  ⟨(b.u32At? entry).getD 0, Value.readAt? b (offset + place)⟩

/-- What is shown of a property's value; the dictionary is not taken apart. -/
def valueText (p : Property) : String :=
  if p.id = 0 then "(dictionary)"
  else
    match p.value with
    | some v => v.text
    | none => "(value out of range)"

/-- The line of a property. -/
def line (set : Guid) (p : Property) : String :=
  "  " ++ Text.padLeft 10 ' ' ("0x" ++ Text.hex 8 p.id.toNat) ++ " " ++
    Text.padRight 20 ' ' (propertyName set p.id) ++ " " ++ p.valueText

end Property

namespace Section

/-- The section at `offset`. -/
def readAt (b : Bytes) (offset : Nat) : Except PropertySetFault Section :=
  match b.u32At? offset, b.u32At? (offset + 4) with
  | some size, some count =>
    let n := count.toNat
    if offset + 8 + 8 * n ≤ b.size then
      .ok ⟨size, n, (List.range (min n maxListed)).map (Property.readAt b offset)⟩
    else .error (.propertyTable n offset)
  | _, _ => .error (.sectionHeader offset)

/-- The lines in front of a section's properties. -/
def sizeLines (s : Section) : List String :=
  [s!"  Section size: {s.size.toNat} bytes", s!"  Number of properties: {s.count}"]

/-- Shows a section. -/
def «show» (set : Guid) (s : Section) : Report Unit := do
  Report.lines s.sizeLines
  if maxListed < s.count then Report.note (.longSection s.count maxListed)
  Report.lines (s.properties.map (Property.line set))

end Section

/-- The place in entry number `i` of the section table. -/
def placeAt (b : Bytes) (i : Nat) : Place :=
  let pos := headerSize + i * placeSize
  ⟨(b.guidAt? pos).getD Guid.nil, ((b.u32At? (pos + 16)).getD 0).toNat⟩

/-- The two lines above section number `i`. -/
def placeLines (i : Nat) (p : Place) : List String :=
  ["", s!"Property set {i}: {p.set.text} ({setName p.set}), offset {p.offset}"]

/-- What is shown of the header. -/
def headerLines (b : Bytes) : List String :=
  let system := (b.u32At? 4).getD 0
  [s!"Byte order: 0x{Text.hex 4 ((b.u16At? 0).getD 0).toNat}",
    s!"Version: {((b.u16At? 2).getD 0).toNat}",
    s!"System identifier: 0x{Text.hex 8 system.toNat} ({systemName system})",
    s!"CLSID: {((b.guidAt? 8).getD Guid.nil).text}",
    s!"Number of property sets: {((b.u32At? 24).getD 0).toNat}"]

/-- Shows `count` sections from number `i` on. -/
def readSections (b : Bytes) : (count i : Nat) → Report Unit
  | 0, _ => pure ()
  | count + 1, i => do
    let place := placeAt b i
    Report.lines (placeLines i place)
    match Section.readAt b place.offset with
    | .error fault => throw (.propertySet fault)
    | .ok s => s.show place.set
    readSections b count (i + 1)

/-- Shows a property set stream. -/
def read (b : Bytes) : Report Unit :=
  if b.size < headerSize then throw (.propertySet (.tooShort b.size))
  else
    let mark := (b.u16At? 0).getD 0
    if mark ≠ 0xFFFE then throw (.propertySet (.byteOrder mark))
    else do
      let count := ((b.u32At? 24).getD 0).toNat
      let stop := headerSize + count * placeSize
      Report.lines (headerLines b)
      if stop ≤ b.size then do
        Report.note (.sectionTable stop)
        readSections b count 0
      else throw (.propertySet (.sectionTable count))

end DeckDump.PropertySet
