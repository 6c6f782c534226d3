import DeckDump.Record.Fault
import DeckDump.Record.Header
import DeckDump.Record.Text
import DeckDump.Report.HexDump
import DeckDump.Text.Escape

/-!
# Atoms

The body of a record that holds no records. A few types are taken apart into labelled fields of
fixed size, text atoms show and give their text, the rest is dumped in hexadecimal. What an atom
shows in front of a field that it is too short for stays shown.

* `blockLines_length`: a block that is read in full shows one line for each row
-/

namespace DeckDump

namespace Atom

/-- How a field of fixed size is stored and shown. -/
inductive Form
  | u8
  | u16
  | u32
  /-- A signed 32-bit number. -/
  | i32
  /-- A byte that is off iff it is zero. -/
  | flag
  /-- A 32-bit word shown in hexadecimal. -/
  | bits
  /-- The kind of a text. -/
  | textKind
deriving DecidableEq, Repr

/-- The kinds of text, by number. -/
def textKinds : List String :=
  ["title", "body", "notes", "not used", "other", "center body", "center title", "half body", "quarter body"]

namespace Form

/-- How many bytes a field of the form has. -/
def width : Form → Nat
  | u8 | flag => 1
  | u16 => 2
  | u32 | i32 | bits | textKind => 4

/-- The number stored at `offset` of a body. -/
def valueAt? (f : Form) (body : Bytes) (offset : Nat) : Option Nat :=
  match f with
  | u8 | flag => body[offset]?.map (·.toNat)
  | u16 => (body.u16At? offset).map (·.toNat)
  | u32 | i32 | bits | textKind => (body.u32At? offset).map (·.toNat)

/-- How the number is shown. -/
def «show» (f : Form) (n : Nat) : String :=
  match f with
  | u8 | u16 | u32 => Text.decimal n
  | i32 => Text.signedDecimal (UInt32.ofNat n).toInt32.toInt
  | flag => if n = 0 then "false" else "true"
  | bits => "0x" ++ Text.hex 8 n
  | textKind => Text.decimal n ++ " (" ++ textKinds.getD n "unknown" ++ ")"

end Form

/-- One shown line: its label, its fields, and what stands between two of them. -/
structure Row where
  label : String
  forms : List Form
  between : String := ""
deriving Repr

/-- A line with a label, inside `depth` records. -/
def labelled (depth : Nat) (label value : String) : String :=
  Text.fill (2 * depth) ' ' ++ label ++ ": " ++ value

/-- The numbers of fields that follow each other from `offset` on, and the offset behind them. -/
def readForms (header : RecordHeader) (body : Bytes) (offset : Nat) :
    List Form → Except RecordFault (List Nat × Nat)
  | [] => .ok ([], offset)
  | f :: rest =>
    match f.valueAt? body offset with
    | none => .error (.fieldTooShort header.type body.size f.width offset)
    | some n => do
      let (ns, stop) ← readForms header body (offset + f.width) rest
      return (n :: ns, stop)

/-- The text of a row whose fields hold `ns`. -/
def Row.text (r : Row) (ns : List Nat) : String :=
  String.intercalate r.between (List.zipWith Form.show r.forms ns)

/-- The rows of a block, as they are shown when its fields hold `ns`. -/
def blockLines (depth : Nat) : List Row → List Nat → List String
  | [], _ => []
  | r :: rest, ns =>
    labelled depth r.label (r.text (ns.take r.forms.length)) ::
      blockLines depth rest (ns.drop r.forms.length)

/-- The blocks of an atom. All fields of a block are read in front of its first line. -/
abbrev Layout := List (List Row)

/-- A block of one row with one field. -/
def single (label : String) (form : Form) : List Row := [⟨label, [form], ""⟩]

/-- The fields of the atoms that are taken apart. -/
def layout? (t : RecordType) : Option Layout :=
  if t = .textHeaderAtom then some [single "text type" .textKind]
  else if t = .slidePersistAtom then
    some [single "persist id ref" .u32, single "flags" .bits, single "number of texts" .i32,
      single "slide id" .u32]
  else if t = .documentAtom then
    some [[⟨"slide size", [.i32, .i32], " x "⟩, ⟨"notes size", [.i32, .i32], " x "⟩,
        ⟨"server zoom", [.i32, .i32], "/"⟩],
      single "notes master persist id ref" .u32, single "handout master persist id ref" .u32,
      single "first slide number" .u16, single "slide size type" .u16,
      single "save with fonts" .flag, single "omit title place" .flag,
      single "right to left" .flag, single "show comments" .flag]
  else if t = .userEditAtom then
    some [single "last slide id ref" .u32, single "version" .u16, single "minor version" .u8,
      single "major version" .u8, single "offset last edit" .u32, single "offset persist directory" .u32,
      single "document persist id ref" .u32, single "persist id seed" .u32, single "last view" .u16]
  else none

end Atom

/-- What an atom says: the lines it shows, the text it gives, and the fault that cuts it short. -/
structure AtomReading where
  lines : List String := []
  text : Option String := none
  fault : Option RecordFault := none
deriving Repr

namespace Atom

/-- Reads the fields of a layout from `offset` on. -/
def readLayout (header : RecordHeader) (body : Bytes) (depth offset : Nat) : Layout → AtomReading
  | [] => {}
  | rows :: rest =>
    match readForms header body offset (rows.flatMap Row.forms) with
    | .error fault => { fault := some fault }
    | .ok (ns, stop) =>
      let later := readLayout header body depth stop rest
      { later with lines := blockLines depth rows ns ++ later.lines }

/-- Text in quotes, with its control characters made visible. -/
def quoted (s : String) : String := "\"" ++ Text.escapeControls s ++ "\""

/-- A text atom: its text is shown and given, and a body without text is dumped. -/
def readText (depth : Nat) (body : Bytes) : Option String → AtomReading
  | some s => { lines := [labelled depth "text" (quoted s)], text := some (s ++ "\n") }
  | none => { lines := HexDump.lines body none }

theorem blockLines_length (depth : Nat) (rows : List Row) (ns : List Nat) :
    (blockLines depth rows ns).length = rows.length := by
  induction rows generalizing ns with
  | nil => rfl
  | cons r rest ih => simp [blockLines, ih]

end Atom

end DeckDump
