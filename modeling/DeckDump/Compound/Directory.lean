import DeckDump.Compound.EntryId
import DeckDump.Compound.ObjectType
import DeckDump.Compound.Path
import DeckDump.Compound.SectorTable
import DeckDump.Text.Utf16

/-!
# The directory table

The entries of the directory in the order in which they are stored, free slots included. Entries
link to siblings and to a child; an entry that the root leads to has a path. The links are not
trusted: each entry is reached at most once, and a link that leads nowhere is passed over.

* `countP_pathless_set`: giving an entry a path leaves one entry less without
-/

namespace DeckDump.Compound

/-- One entry of the directory table. -/
structure DirectoryEntry where
  /-- Its place in the table, counted in 32 bits. -/
  id : EntryId
  name : String
  type : ObjectType
  left : EntryId
  right : EntryId
  child : EntryId
  clsid : Guid
  stateBits : UInt32
  size : UInt64
  /-- Its place in the document; an entry that no storage leads to has none. -/
  path : Option Path := none
deriving DecidableEq

namespace DirectoryEntry

/-- How many bytes an entry has. -/
def byteSize : Nat := 128

/-- How many bytes of its name field an entry uses. -/
def nameBytes (raw : Bytes) : Nat := min ((raw.u16At? 0x40).getD 0).toNat 64

/-- The size field; version 3 defines its low half only. -/
def sizeField (raw : Bytes) (major : UInt16) : UInt64 :=
  let n := (raw.u64At? 0x78).getD 0
  if major = 3 then UInt64.ofNat (n.toNat % 0x100000000) else n

/-- Entry number `id`, stored in `raw`. -/
def parse (id : EntryId) (raw : Bytes) (major : UInt16) : DirectoryEntry where
  id := id
  name := Utf16.textOf (raw.extract 0 (nameBytes raw))
  type := ObjectType.ofByte (raw.getD 0x42 0)
  left := (raw.u32At? 0x44).getD EntryId.nowhere
  right := (raw.u32At? 0x48).getD EntryId.nowhere
  child := (raw.u32At? 0x4C).getD EntryId.nowhere
  clsid := (raw.guidAt? 0x50).getD Guid.nil
  stateBits := (raw.u32At? 0x60).getD 0
  size := sizeField raw major

/-- Whether the entry has no path yet. -/
def pathless (e : DirectoryEntry) : Bool := e.path.isNone

/-- The links of an entry that has got `path` inside `parent`, the one followed first in front. -/
def links (e : DirectoryEntry) (parent path : Path) : List (EntryId × Path) :=
  (if e.type.hasChildren then [(e.child, path)] else []) ++ [(e.right, parent), (e.left, parent)]

end DirectoryEntry

namespace Directory

theorem countP_pathless_set {entries : Array DirectoryEntry} {i : Nat} (h : i < entries.size)
    (hp : entries[i].pathless = true) (path : Path) :
    (entries.set i { entries[i] with path := some path }).countP DirectoryEntry.pathless <
      entries.countP DirectoryEntry.pathless := by
  have hpos : 0 < entries.countP DirectoryEntry.pathless :=
    Array.countP_pos_iff.2 ⟨entries[i], Array.getElem_mem h, hp⟩
  rw [Array.countP_set, if_pos hp, if_neg (by simp [DirectoryEntry.pathless])]
  omega

/-- Gives paths to the entries that the pending links lead to. A link is followed to an entry without a
path; other links are passed over. -/
def assignPaths (entries : Array DirectoryEntry) : (pending : List (EntryId × Path)) → Array DirectoryEntry
  | [] => entries
  | (id, parent) :: rest =>
    if id = EntryId.nowhere then assignPaths entries rest
    else if h : id.toNat < entries.size then
      if hp : entries[id.toNat].pathless then
        let entry := entries[id.toNat]
        let path := Path.join parent entry.name
        have := countP_pathless_set h hp path
        assignPaths (entries.set id.toNat { entry with path := some path }) (entry.links parent path ++ rest)
      else assignPaths entries rest
    else assignPaths entries rest
termination_by pending => (entries.countP DirectoryEntry.pathless, pending.length)
decreasing_by
  · exact .right _ (by simp)
  · exact .left _ _ this
  · exact .right _ (by simp)
  · exact .right _ (by simp)

/-- Gives the root entry its path, and every entry that it leads to. -/
def resolvePaths (entries : Array DirectoryEntry) : Array DirectoryEntry :=
  if h : 0 < entries.size then
    let root := entries[0]
    assignPaths (entries.set 0 { root with path := some Path.root }) [(root.child, Path.root)]
  else entries

/-- The sectors of a chain. -/
def readSectors (data : Bytes) (header : Header) (chain : List SectorId) : Except TableFault (List Bytes) :=
  chain.mapM (readSector data header)

/-- The entries stored in sectors, without paths. -/
def parseEntries (sectors : List Bytes) (major : UInt16) : Array DirectoryEntry :=
  ((sectors.flatMap (·.chunks DirectoryEntry.byteSize)).mapIdx fun i raw =>
    DirectoryEntry.parse (UInt32.ofNat i) raw major).toArray

/-- Reads the directory table of a file. -/
def read (data : Bytes) (header : Header) (table : SectorTable) : Logged (Array DirectoryEntry) := do
  let chain := table.chain header.firstDirectorySector
  if chain.isEmpty then throw (.table .noDirectorySectors)
  match readSectors data header chain with
  | .error fault => throw (.table fault)
  | .ok sectors => do
    let entries := parseEntries sectors header.majorVersion
    if (entries[0]?.map (·.type)) ≠ some .root then throw (.table .rootNotFirst)
    Logged.note (.directoryRead entries.size)
    return resolvePaths entries

end Directory

end DeckDump.Compound
