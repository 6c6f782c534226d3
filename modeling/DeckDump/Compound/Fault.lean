import DeckDump.Compound.EntryId
import DeckDump.Compound.ObjectType
import DeckDump.Compound.SectorId
import DeckDump.Text.Escape
import DeckDump.Text.Quoted

/-!
# What can be wrong with a compound document

The causes for which a header, the allocation tables, the directory or a stream of a compound
document is refused, and the wording of each.
-/

namespace DeckDump.Compound

/-- Why a header is refused. -/
inductive HeaderFault
  | tooSmall (size : Nat)
  | noSignature
  | byteOrder (found : UInt16)
  | sectorShift (major shift : UInt16)
  | miniSectorShift (mini shift : UInt16)
deriving DecidableEq, Repr

namespace HeaderFault

/-- Whether the fault means that the file is no compound document at all. -/
def isForeign : HeaderFault → Bool
  | tooSmall _ | noSignature => true
  | byteOrder _ | sectorShift .. | miniSectorShift .. => false

/-- The wording of a refused header. -/
def message : HeaderFault → String
  | tooSmall size => s!"File too small for a compound document header ({size} bytes, need 512)"
  | noSignature => "Missing compound document signature (D0 CF 11 E0 A1 B1 1A E1)"
  | byteOrder found => s!"Invalid byte order mark 0x{Text.hex 4 found.toNat} (expected 0xFFFE)"
  | sectorShift major shift => s!"Sector shift {shift.toNat} does not match major version {major.toNat}"
  | miniSectorShift mini shift =>
    s!"Mini sector shift {mini.toNat} is not smaller than sector shift {shift.toNat}"

end HeaderFault

/-- Why the sector table or the directory table cannot be read. -/
inductive TableFault
  | difatBeyondEnd (sector : SectorId)
  | sectorBeyondEnd (sector : SectorId) (start size : Nat)
  | noDirectorySectors
  | rootNotFirst
deriving DecidableEq, Repr

/-- The wording of an unreadable table. -/
def TableFault.message : TableFault → String
  | .difatBeyondEnd sector => s!"DIFAT sector {sector.toNat} is beyond the end of the file"
  | .sectorBeyondEnd sector start size =>
    s!"Sector {sector.toNat} starts at offset {start} beyond the end of the file ({size} bytes)"
  | .noDirectorySectors => "Directory has no sectors"
  | .rootNotFirst => "First directory entry is not the root storage"

/-- Why the strict reader refuses a file or a stream. -/
inductive StoreFault
  /-- The file ends in the middle of something that is read. -/
  | endOfFile
  | miniSectorShift (found : UInt16)
  | miniStreamCutoff (found : UInt32)
  | headerDifat (entry : SectorId)
  | fileTooShort (size sectorSize : Nat)
  | difatChainInvalid (sector : SectorId)
  | difatChainBeyond (sector : SectorId) (sectors : Nat)
  | difatChainRepeats (sector : SectorId)
  | difatInvalid (entry : SectorId)
  | difatBeyond (entry : SectorId) (sectors : Nat)
  | fatTooLong (entries sectors : Nat)
  | difatSectorUnlisted (entries : Nat) (sector : SectorId)
  | fatSectorUnlisted (entries : Nat) (sector : SectorId)
  | fatLinkBeyond (entries sector : Nat) (target : SectorId)
  | fatLinkTwice (target : SectorId)
  | fatInvalidMark
  | sectorUnlisted (sector : SectorId) (entries : Nat)
  | linkInvalid (target : SectorId)
  | chainRepeats (sector : SectorId)
  | directoryChainInvalid (sector : SectorId)
  | directoryChainBeyond (sector : SectorId) (sectors : Nat)
  | directoryChainRepeats (sector : SectorId)
  | nameTooLong (bytes : UInt16)
  | nameLengthOdd (bytes : UInt16)
  | nameNotUtf16
  | objectType (byte : UInt8)
  | nameCharacter (c : Char)
  | color (byte : UInt8)
  | leftInvalid (id : EntryId)
  | rightInvalid (id : EntryId)
  | streamHasChild (id : EntryId)
  | childInvalid (id : EntryId)
  | rootMissing
  | rootSize (size : Nat)
  | treeLoop
  | rootType (type : ObjectType)
  | nodeType (type : ObjectType)
  | leftBeyond (id : EntryId) (entries : Nat)
  | rightBeyond (id : EntryId) (entries : Nat)
  | childBeyond (id : EntryId) (entries : Nat)
  | nameOrder (node sibling : String)
  | miniLinkBeyond (entries sector : Nat) (target : SectorId)
  | miniLinkTwice (target : SectorId)
  | pathOutsideRoot
  | noStream (path : String)
  | notStream (path : String)
  | miniSectorUnlisted (sector : SectorId) (entries : Nat)
  | miniChainRepeats (sector : SectorId)
  /-- The mini stream has no room for a mini sector of the chain. -/
  | miniSectorMissing
deriving DecidableEq, Repr

namespace StoreFault

/-- The strict reader's word for an object type. -/
def typeWord : ObjectType → String
  | .unused | .unknown _ => "Unallocated"
  | .storage => "Storage"
  | .stream => "Stream"
  | .root => "Root"

/-- The wording of what the strict reader refuses. -/
def message : StoreFault → String
  | endOfFile => "failed to fill whole buffer"
  | miniSectorShift n => s!"Incorrect mini sector shift (expected 6, found {n.toNat})"
  | miniStreamCutoff n => s!"Incorrect mini stream cutoff (expected 4096, found {n.toNat})"
  | headerDifat e => s!"Initial DIFAT array refers to invalid sector index 0x{Text.hex 8 e.toNat}"
  | fileTooShort size sectorSize => s!"Invalid CFB file (length of {size} < sector length of {sectorSize})"
  | difatChainInvalid c => s!"DIFAT chain includes invalid sector index {c.toNat}"
  | difatChainBeyond c n => s!"DIFAT chain includes sector index {c.toNat}, but sector count is only {n}"
  | difatChainRepeats c => s!"DIFAT chain includes duplicate sector index {c.toNat}"
  | difatInvalid e => s!"DIFAT refers to invalid sector index {e.toNat}"
  | difatBeyond s n => s!"DIFAT refers to sector {s.toNat}, but sector count is only {n}"
  | fatTooLong l n => s!"Malformed FAT (FAT has {l} entries, but file has only {n} sectors)"
  | difatSectorUnlisted l d =>
    s!"Malformed FAT (FAT has {l} entries, but DIFAT lists {d.toNat} as a DIFAT sector)"
  | fatSectorUnlisted l f => s!"Malformed FAT (FAT has {l} entries, but DIFAT lists {f.toNat} as a FAT sector)"
  | fatLinkBeyond l i t => s!"Malformed FAT (FAT has {l} entries, but sector {i} points to {t.toNat})"
  | fatLinkTwice t => s!"Malformed FAT (sector {t.toNat} pointed to twice)"
  | fatInvalidMark => "Malformed FAT (0xFFFFFFFB is not a valid FAT entry)"
  | sectorUnlisted s l => s!"Found reference to sector {s.toNat}, but FAT has only {l} entries"
  | linkInvalid v => s!"next_id ({v.toNat}) is invalid"
  | chainRepeats c => s!"Chain contained duplicate sector id {c.toNat}"
  | directoryChainInvalid c => s!"Directory chain includes invalid sector index {c.toNat}"
  | directoryChainBeyond c n =>
    s!"Directory chain includes sector index {c.toNat}, but sector count is only {n}"
  | directoryChainRepeats c => s!"Directory chain includes duplicate sector index {c.toNat}"
  | nameTooLong n => s!"Malformed directory entry (name length too large: {n.toNat})"
  | nameLengthOdd n => s!"Malformed directory entry (odd name length: {n.toNat})"
  | nameNotUtf16 => "Malformed directory entry (name not valid UTF-16)"
  | objectType b => s!"Malformed directory entry (invalid object type: {b.toNat})"
  | nameCharacter c => s!"Object name cannot contain {c} character"
  | color b => s!"Malformed directory entry (invalid color: {b.toNat})"
  | leftInvalid id => s!"Malformed directory entry (invalid left sibling: {id.toNat})"
  | rightInvalid id => s!"Malformed directory entry (invalid right sibling: {id.toNat})"
  | streamHasChild id => s!"Malformed directory entry (non-empty stream child: {id.toNat})"
  | childInvalid id => s!"Malformed directory entry (invalid child: {id.toNat})"
  | rootMissing => "Malformed directory (root entry is missing)"
  | rootSize n => s!"Malformed directory (root stream len is {n}, but should be multiple of 64)"
  | treeLoop => "Malformed directory (loop in tree)"
  | rootType t => s!"Malformed directory (root entry has object type {typeWord t})"
  | nodeType t => s!"Malformed directory (non-root entry with object type {typeWord t})"
  | leftBeyond id n =>
    s!"Malformed directory (left sibling index is {id.toNat}, but directory entry count is {n})"
  | rightBeyond id n =>
    s!"Malformed directory (right sibling index is {id.toNat}, but directory entry count is {n})"
  | childBeyond id n => s!"Malformed directory (child index is {id.toNat}, but directory entry count is {n})"
  | nameOrder node sibling =>
    s!"Malformed directory (name ordering, {Text.quote node} vs {Text.quote sibling})"
  | miniLinkBeyond l i t =>
    s!"Malformed MiniFAT (MiniFAT has {l} entries, but mini sector {i} points to {t.toNat})"
  | miniLinkTwice t => s!"Malformed MiniFAT (mini sector {t.toNat} pointed to twice)"
  | pathOutsideRoot => "Invalid path (must be within root)"
  | noStream path => s!"No such stream: {Text.quote path}"
  | notStream path => s!"Not a stream: {Text.quote path}"
  | miniSectorUnlisted s l => s!"Found reference to mini sector {s.toNat}, but MiniFAT has only {l} entries"
  | miniChainRepeats c => s!"Minichain contained duplicate sector id {c.toNat}"
  | miniSectorMissing => "invalid sector id"

end StoreFault

/-- Why the bytes at a path cannot be fetched, in the words of the reader that was asked for them. -/
inductive FetchFault
  /-- The path leads to no stream. -/
  | cannotOpen (reason : String)
  /-- The stream's bytes are not all there. -/
  | cannotRead (reason : String)
deriving DecidableEq, Repr

/-- Why an entry cannot be looked up. -/
inductive LookupFault
  | noEntry (name : String)
  | unlinked (name : String)
  | fetch (name : String) (fault : FetchFault)
deriving DecidableEq, Repr

/-- The wording of a failed look-up. -/
def LookupFault.message : LookupFault → String
  | .noEntry name => s!"No directory entry named '{Text.escapeControls name}'"
  | .unlinked name => s!"Stream '{Text.escapeControls name}' is not linked from the root storage"
  | .fetch name (.cannotOpen reason) => s!"Failed to open stream '{Text.escapeControls name}': {reason}"
  | .fetch name (.cannotRead reason) => s!"Failed to read stream '{Text.escapeControls name}': {reason}"

end DeckDump.Compound
