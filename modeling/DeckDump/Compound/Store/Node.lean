import DeckDump.Compound.EntryId
import DeckDump.Compound.ObjectType
import DeckDump.Compound.Store.Allocation
import DeckDump.Text.Utf16

/-!
# Checked directory entries

An entry of the directory as the strict reader takes it. Its fields are read and checked one
after the other, so that the first fault in the order of the fields is the one reported.
-/

namespace DeckDump.Compound.Store

/-- A directory entry that passed the checks. -/
structure Node where
  name : String
  type : ObjectType
  left : EntryId
  right : EntryId
  child : EntryId
  clsid : Guid
  stateBits : UInt32
  /-- The first sector of its stream. -/
  start : SectorId
  size : Nat
deriving DecidableEq, Inhabited

namespace Node

/-- The name of the root entry, whatever is stored. -/
def rootName : String := "Root Entry"

/-- The text of code units without a surrogate that lacks its partner. -/
def strictName? (units : List UInt16) : Option String :=
  ((Utf16.decode units).mapM id).map String.ofList

/-- A value that must be there. -/
def need {α : Type} (value : Option α) : Except StoreFault α :=
  match value with
  | some v => .ok v
  | none => .error .endOfFile

/-- The characters that a name must not have, in the order in which they are looked for. -/
def refusedCharacters : List Char := ['/', '\\', ':', '!']

/-- Checks the name of an entry. -/
def checkName (name : String) : Except StoreFault Unit :=
  match refusedCharacters.find? (name.toList.contains ·) with
  | some c => .error (.nameCharacter c)
  | none => .ok ()

/-- The name stored in 64 bytes at `base`, of which the word behind them says how many are used. -/
def readName (data : Bytes) (base : Nat) : Except StoreFault String := do
  let raw ← need (data.slice? base 64)
  let n ← need (data.u16At? (base + 0x40))
  if 64 < n then throw (.nameTooLong n)
  if n.toNat % 2 ≠ 0 then throw (.nameLengthOdd n)
  match strictName? (raw.words16.take (n.toNat / 2 - 1)) with
  | some name => return name
  | none => throw .nameNotUtf16

/-- The type byte at `pos`. -/
def readType (data : Bytes) (pos : Nat) : Except StoreFault ObjectType := do
  let b ← need data[pos]?
  match ObjectType.ofByte b with
  | .unknown b => throw (.objectType b)
  | type => return type

/-- A link to an entry at `pos`; numbers between the entries and the link that leads nowhere are refused. -/
def readLink (data : Bytes) (pos : Nat) (invalid : EntryId → StoreFault) : Except StoreFault EntryId := do
  let id ← need (data.u32At? pos)
  unless EntryId.isLink id do throw (invalid id)
  return id

/-- The link to a child at `pos`; a stream has none. -/
def readChild (data : Bytes) (pos : Nat) (type : ObjectType) : Except StoreFault EntryId := do
  let id ← need (data.u32At? pos)
  if id ≠ EntryId.nowhere ∧ type = .stream then throw (.streamHasChild id)
  unless EntryId.isLink id do throw (.childInvalid id)
  return id

/-- The entry stored at `base` of a file of version `major`. -/
def read (data : Bytes) (base : Nat) (major : UInt16) : Except StoreFault Node := do
  let stored ← readName data base
  let type ← readType data (base + 0x42)
  unless type = .root do checkName stored
  let color ← need data[base + 0x43]?
  if 1 < color then throw (.color color)
  let left ← readLink data (base + 0x44) .leftInvalid
  let right ← readLink data (base + 0x48) .rightInvalid
  let child ← readChild data (base + 0x4C) type
  let clsid ← need (data.guidAt? (base + 0x50))
  let stateBits ← need (data.u32At? (base + 0x60))
  let start ← need (data.u32At? (base + 0x74))
  let size ← need (data.u64At? (base + 0x78))
  let size := if major = 3 then size.toNat % 0x100000000 else size.toNat
  let name := if type = .root then rootName else stored
  let clsid := if type = .stream then Guid.nil else clsid
  if type = .storage then return ⟨name, type, left, right, child, clsid, stateBits, 0, 0⟩
  return ⟨name, type, left, right, child, clsid, stateBits, start, size⟩

/-- The `n` entries of a sector from place `i` on. -/
def readSome (s : Sectors) (major : UInt16) (id : SectorId) (i : Nat) : (n : Nat) → Except StoreFault (List Node)
  | 0 => .ok []
  | n + 1 => do
    let node ← read s.data (s.start id + 128 * i) major
    let later ← readSome s major id (i + 1) n
    return node :: later

end Node

/-- The entries along the chain of directory sectors from `id` on. `seen` are the sectors in front, and
`limit` is how many more the file can have. -/
def readDirectory (s : Sectors) (major : UInt16) (links : Links) (limit : Nat) (id : SectorId)
    (seen : List SectorId) : Except StoreFault (List Node) :=
  if id = SectorId.endOfChain then .ok []
  else if ¬ id.isRegular then .error (.directoryChainInvalid id)
  else if s.count ≤ id.toNat then .error (.directoryChainBeyond id s.count)
  else if id ∈ seen then .error (.directoryChainRepeats id)
  else
    match limit with
    | 0 => .error (.directoryChainRepeats id)
    | limit + 1 => do
      let here ← Node.readSome s major id 0 (s.size / 128)
      let next ← links.next id
      let later ← readDirectory s major links limit next (id :: seen)
      return here ++ later

end DeckDump.Compound.Store
