import DeckDump.Record.Atom

/-!
# The current user

The atom that names who saved the document last. Its fixed fields and the single-byte name are
all read in front of the first line; the release version and the Unicode name behind them may be
missing, and bytes behind those are ignored.

* `read_empty`: an atom without bytes is refused at its first field
-/

namespace DeckDump

/-- The atom of the current user. -/
structure CurrentUser where
  size : UInt32
  token : UInt32
  /-- Where the last edit of the document stream starts. -/
  currentEdit : UInt32
  /-- The length of the user name, in characters. -/
  nameLength : UInt16
  fileVersion : UInt16
  majorVersion : UInt8
  minorVersion : UInt8
  ansiName : Bytes
  releaseVersion : Option UInt32
  /-- The bytes of the Unicode name. -/
  unicodeName : Option Bytes
deriving Repr

namespace CurrentUser

/-- The token of a document that is not encrypted. -/
def plainToken : UInt32 := 0xE391C05F

/-- The token of an encrypted document. -/
def encryptedToken : UInt32 := 0xF3D1C4DF

/-- What a token says about the document. -/
def tokenMeaning (token : UInt32) : String :=
  if token = plainToken then "not encrypted" else if token = encryptedToken then "encrypted" else "unknown"

/-- A field of `width` bytes at `offset` that must be there. -/
def need {α : Type} (header : RecordHeader) (body : Bytes) (width offset : Nat) (value : Option α) :
    Except RecordFault α :=
  match value with
  | some v => .ok v
  | none => .error (.fieldTooShort header.type body.size width offset)

/-- Reads the atom from its body. -/
def read (header : RecordHeader) (body : Bytes) : Except RecordFault CurrentUser := do
  let size ← need header body 4 0 (body.u32At? 0)
  let token ← need header body 4 4 (body.u32At? 4)
  let currentEdit ← need header body 4 8 (body.u32At? 8)
  let nameLength ← need header body 2 12 (body.u16At? 12)
  let fileVersion ← need header body 2 14 (body.u16At? 14)
  let majorVersion ← need header body 1 16 body[16]?
  let minorVersion ← need header body 1 17 body[17]?
  let _ ← need header body 2 18 (body.u16At? 18)
  let n := nameLength.toNat
  let ansiName ← need header body n 20 (body.slice? 20 n)
  let releaseVersion := body.u32At? (20 + n)
  let unicodeName := if releaseVersion.isSome then body.slice? (24 + n) (2 * n) else none
  return ⟨size, token, currentEdit, nameLength, fileVersion, majorVersion, minorVersion, ansiName, releaseVersion,
    unicodeName⟩

/-- The labels and values shown. -/
def fields (u : CurrentUser) : List (String × String) :=
  [("size", Text.decimal u.size.toNat),
    ("header token", s!"0x{Text.hex 8 u.token.toNat} ({tokenMeaning u.token})"),
    ("offset to current edit", Text.decimal u.currentEdit.toNat),
    ("user name length", Text.decimal u.nameLength.toNat),
    ("document file version", "0x" ++ Text.hex 4 u.fileVersion.toNat),
    ("major version", Text.decimal u.majorVersion.toNat),
    ("minor version", Text.decimal u.minorVersion.toNat),
    ("user name (ANSI)", Atom.quoted ((RecordText.ansi? u.ansiName).getD ""))] ++
  (u.releaseVersion.map fun v => ("release version", Text.decimal v.toNat)).toList ++
  (u.unicodeName.map fun b => ("user name (Unicode)", Atom.quoted ((RecordText.unicode? b).getD ""))).toList

/-- What the atom says. -/
def reading (header : RecordHeader) (body : Bytes) (depth : Nat) : AtomReading :=
  match read header body with
  | .error fault => { fault := some fault }
  | .ok u => { lines := u.fields.map fun (label, value) => Atom.labelled depth label value }

end CurrentUser

theorem CurrentUser.read_empty (header : RecordHeader) :
    CurrentUser.read header #[] = .error (.fieldTooShort header.type 0 4 0) := rfl

/-- What the body of an atom says inside `depth` records. -/
def AtomReading.ofBody (header : RecordHeader) (body : Bytes) (depth : Nat) : AtomReading :=
  let t := header.type
  if t = .textCharsAtom then Atom.readText depth body (RecordText.unicode? body)
  else if t = .textBytesAtom then Atom.readText depth body (RecordText.ansi? body)
  else if t = .cString then
    { lines := [Atom.labelled depth "string" (Atom.quoted ((RecordText.unicode? body).getD ""))] }
  else if t = .currentUserAtom then CurrentUser.reading header body depth
  else
    match Atom.layout? t with
    | some layout => Atom.readLayout header body depth 0 layout
    | none => { lines := HexDump.lines body none }

end DeckDump
