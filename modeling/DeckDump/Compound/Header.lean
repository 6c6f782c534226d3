import DeckDump.Compound.Fault
import DeckDump.Compound.SectorId
import DeckDump.Guid
import DeckDump.Report.Basic

/-!
# The header of a compound document

The first 512 bytes: the signature, the sizes of sectors and mini sectors, where the tables
start, and the first 109 sectors of the allocation table. The rest of the file is cut into
sectors, the first of which is the header's own.
-/

namespace DeckDump.Compound

/-- The header of a compound document. -/
structure Header where
  clsid : Guid
  minorVersion : UInt16
  majorVersion : UInt16
  byteOrder : UInt16
  /-- The size of a sector as a power of two. -/
  sectorShift : UInt16
  /-- The size of a mini sector as a power of two. -/
  miniSectorShift : UInt16
  directorySectors : UInt32
  fatSectors : UInt32
  firstDirectorySector : SectorId
  transactionSignature : UInt32
  /-- Streams below this size are kept in mini sectors. -/
  miniStreamCutoff : UInt32
  firstMiniFatSector : SectorId
  miniFatSectors : UInt32
  firstDifatSector : SectorId
  difatSectors : UInt32
  /-- The first sectors of the allocation table. -/
  difat : Vector SectorId 109
deriving DecidableEq

namespace Header

/-- How many bytes a header has. -/
def size : Nat := 512

/-- The bytes that every compound document starts with. -/
def signature : List UInt8 := [0xD0, 0xCF, 0x11, 0xE0, 0xA1, 0xB1, 0x1A, 0xE1]

/-- The only byte order mark. -/
def littleEndianMark : UInt16 := 0xFFFE

/-- The word at `offset`, zero where the bytes end. -/
def word16 (data : Bytes) (offset : Nat) : UInt16 := (data.u16At? offset).getD 0

/-- The double word at `offset`, zero where the bytes end. -/
def word32 (data : Bytes) (offset : Nat) : UInt32 := (data.u32At? offset).getD 0

/-- The fields at their fixed offsets, unchecked. -/
def fields (data : Bytes) : Header where
  clsid := (data.guidAt? 0x08).getD Guid.nil
  minorVersion := word16 data 0x18
  majorVersion := word16 data 0x1A
  byteOrder := word16 data 0x1C
  sectorShift := word16 data 0x1E
  miniSectorShift := word16 data 0x20
  directorySectors := word32 data 0x28
  fatSectors := word32 data 0x2C
  firstDirectorySector := word32 data 0x30
  transactionSignature := word32 data 0x34
  miniStreamCutoff := word32 data 0x38
  firstMiniFatSector := word32 data 0x3C
  miniFatSectors := word32 data 0x40
  firstDifatSector := word32 data 0x44
  difatSectors := word32 data 0x48
  difat := Vector.ofFn fun i => word32 data (0x4C + 4 * i)

/-- Whether the sector size is that of the version. -/
def sizeMatchesVersion (h : Header) : Bool :=
  (h.majorVersion == 3 && h.sectorShift == 9) || (h.majorVersion == 4 && h.sectorShift == 12)

/-- Reads the header in front of a file and checks it. -/
def parse (data : Bytes) : Except HeaderFault Header :=
  if data.size < size then .error (.tooSmall data.size)
  else if (data.extract 0 8).toList ≠ signature then .error .noSignature
  else
    let h := fields data
    if h.byteOrder ≠ littleEndianMark then .error (.byteOrder h.byteOrder)
    else if ¬ h.sizeMatchesVersion then .error (.sectorShift h.majorVersion h.sectorShift)
    else if h.sectorShift ≤ h.miniSectorShift then .error (.miniSectorShift h.miniSectorShift h.sectorShift)
    else .ok h

/-- The bytes of a header; the six reserved bytes are zero. -/
def encode (h : Header) : List UInt8 :=
  signature ++ h.clsid.toList ++ bytesOf16 h.minorVersion ++ bytesOf16 h.majorVersion ++ bytesOf16 h.byteOrder ++
    bytesOf16 h.sectorShift ++ bytesOf16 h.miniSectorShift ++ List.replicate 6 0 ++
    bytesOf32 h.directorySectors ++ bytesOf32 h.fatSectors ++ bytesOf32 h.firstDirectorySector ++
    bytesOf32 h.transactionSignature ++ bytesOf32 h.miniStreamCutoff ++ bytesOf32 h.firstMiniFatSector ++
    bytesOf32 h.miniFatSectors ++ bytesOf32 h.firstDifatSector ++ bytesOf32 h.difatSectors ++
    h.difat.toList.flatMap bytesOf32

/-- How many bytes a sector has. -/
def sectorSize (h : Header) : Nat := 1 <<< h.sectorShift.toNat

/-- How many bytes a mini sector has. -/
def miniSectorSize (h : Header) : Nat := 1 <<< h.miniSectorShift.toNat

/-- How many sectors, whole or cut short, follow the header's in a file. -/
def sectorCount (h : Header) (fileSize : Nat) : Nat :=
  (fileSize - h.sectorSize + h.sectorSize - 1) / h.sectorSize

/-- What is shown of a header below its title. -/
def fieldLines (h : Header) : List String :=
  [s!"Header CLSID: {h.clsid.text}",
    s!"Minor version: 0x{Text.hex 4 h.minorVersion.toNat}",
    s!"Major version: {h.majorVersion.toNat}",
    s!"Byte order: 0x{Text.hex 4 h.byteOrder.toNat} (little endian)",
    s!"Sector size: {h.sectorSize} bytes (shift {h.sectorShift.toNat})",
    s!"Mini sector size: {h.miniSectorSize} bytes (shift {h.miniSectorShift.toNat})",
    s!"Number of directory sectors: {h.directorySectors.toNat}",
    s!"Number of FAT sectors: {h.fatSectors.toNat}",
    s!"First directory sector: {h.firstDirectorySector.text}",
    s!"Transaction signature: 0x{Text.hex 8 h.transactionSignature.toNat}",
    s!"Mini stream cutoff: {h.miniStreamCutoff.toNat} bytes",
    s!"First mini FAT sector: {h.firstMiniFatSector.text}",
    s!"Number of mini FAT sectors: {h.miniFatSectors.toNat}",
    s!"First DIFAT sector: {h.firstDifatSector.text}",
    s!"Number of DIFAT sectors: {h.difatSectors.toNat}"]

/-- Shows the header. -/
def «show» (h : Header) : Report Unit := do
  Report.section "Compound Document Header"
  Report.lines h.fieldLines

theorem sectorSize_pos (h : Header) : 0 < h.sectorSize := by
  rw [sectorSize, Nat.one_shiftLeft]
  exact Nat.two_pow_pos _

end Header

/-- The bytes of a sector; the last sector of a file may be cut short. -/
def readSector (data : Bytes) (header : Header) (id : SectorId) : Except TableFault Bytes :=
  let start := (id.toNat + 1) * header.sectorSize
  if data.size ≤ start then .error (.sectorBeyondEnd id start data.size)
  else .ok (data.extract start (start + header.sectorSize))

end DeckDump.Compound
