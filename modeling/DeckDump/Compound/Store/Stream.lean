import DeckDump.Compound.Store.Tree

/-!
# The store

A compound document opened for reading streams: its tables and its directory passed the checks.
Streams of at least 4096 bytes are chains of sectors; shorter ones are chains of mini sectors,
which lie in the chain of the root entry.
-/

namespace DeckDump.Compound

/-- A compound document whose streams can be read. -/
structure Store where
  sectors : Store.Sectors
  fat : Array SectorId
  nodes : Array Store.Node
  miniFat : Array SectorId

namespace Store

/-- Streams below this size are kept in mini sectors. -/
def cutoff : Nat := 4096

/-- The words of the sectors of a chain. -/
def chainWords (s : Sectors) : List SectorId → Except StoreFault (List UInt32)
  | [] => .ok []
  | id :: rest => do
    let here ← s.words id 0 s.wordsPerSector
    let later ← chainWords s rest
    return here ++ later

/-- Loads and checks the table of mini sectors, of which the root entry has room for `room`. -/
def loadMiniFat (s : Sectors) (fat : Array SectorId) (header : Header) (room : Nat) :
    Except StoreFault (Array SectorId) := do
  let chain ← (Links.ofFat fat).chain header.firstMiniFatSector
  let words ← chainWords s chain
  let miniFat := (words.toArray.popWhile (· == SectorId.free)).take room
  let n := miniFat.size
  checkLinks ⟨.miniLinkBeyond n, .miniLinkTwice, none⟩ miniFat.toList 0 (Array.replicate n false)
  return miniFat

/-- Opens a file for reading streams. -/
def load (data : Bytes) (header : Header) : Except StoreFault Store := do
  if header.miniSectorShift ≠ 6 then throw (.miniSectorShift header.miniSectorShift)
  if header.miniStreamCutoff ≠ 4096 then throw (.miniStreamCutoff header.miniStreamCutoff)
  let s : Sectors := ⟨data, header.sectorSize⟩
  let fat ← loadFat s header
  let nodes ← readDirectory s header.majorVersion (Links.ofFat fat) s.count header.firstDirectorySector []
  let nodes := nodes.toArray
  checkDirectory nodes
  let rootSize := (nodes[0]?.map Node.size).getD 0
  let miniFat ← loadMiniFat s fat header (rootSize / miniSize)
  return ⟨s, fat, nodes, miniFat⟩

/-- The first `need` bytes of sectors of `unit` bytes, of which `place` says where they start. -/
def gather (data : Bytes) (unit : Nat) (place : SectorId → Except StoreFault Nat) :
    (ids : List SectorId) → (need : Nat) → Except StoreFault (List Bytes)
  | [], need => if need = 0 then .ok [] else .error .endOfFile
  | id :: rest, need =>
    if need = 0 then .ok []
    else do
      let start ← place id
      match data.slice? start (min need unit) with
      | none => throw .endOfFile
      | some here =>
        let later ← gather data unit place rest (need - unit)
        return here :: later

/-- Where a mini sector starts in the file. -/
def miniPlace (s : Store) (id : SectorId) : Except StoreFault Nat := do
  let root := (s.nodes[0]?.map Node.start).getD SectorId.endOfChain
  let chain ← (Links.ofFat s.fat).chain root
  let offset := id.toNat * miniSize
  match chain[offset / s.sectors.size]? with
  | none => throw .miniSectorMissing
  | some sector => return s.sectors.start sector + offset % s.sectors.size

/-- The bytes of an entry's stream. -/
def contents (s : Store) (node : Node) : Except StoreFault Bytes :=
  if node.size = 0 then .ok #[]
  else if node.size < cutoff then do
    let chain ← (Links.ofMiniFat s.miniFat).chain node.start
    let parts ← gather s.sectors.data miniSize s.miniPlace chain node.size
    return parts.foldl (· ++ ·) #[]
  else do
    let chain ← (Links.ofFat s.fat).chain node.start
    let parts ← gather s.sectors.data s.sectors.size (fun id => .ok (s.sectors.start id)) chain node.size
    return parts.foldl (· ++ ·) #[]

/-- The entry of the stream at a path. -/
def find (s : Store) (path : Path) : Except StoreFault Node :=
  match Path.names? path with
  | none => .error .pathOutsideRoot
  | some names =>
    match (locate s.nodes 0 names).bind fun id => s.nodes[id.toNat]? with
    | none => .error (.noStream (Path.ofNames names))
    | some node => if node.type = .stream then .ok node else .error (.notStream (Path.ofNames names))

/-- The bytes of the stream at a path. -/
def fetch (s : Store) (path : Path) : Except FetchFault Bytes :=
  match s.find path with
  | .error fault => .error (.cannotOpen fault.message)
  | .ok node =>
    match s.contents node with
    | .error fault => .error (.cannotRead fault.message)
    | .ok bytes => .ok bytes

end Store

end DeckDump.Compound
