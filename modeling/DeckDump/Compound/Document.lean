import DeckDump.Compound.ListedEntry
import DeckDump.Container

/-!
# Documents

A compound document opened for a dump. Its listing comes from the directory table, or from a walk along
the tree where that table cannot be read; its payloads come from a reader of compound documents. An
entry is looked up by name: the first entry of that name counts, and only streams have a payload.
-/

namespace DeckDump.Compound

/-- An opened document. -/
structure Document where
  header : Header
  table : Option SectorTable
  entries : Array ListedEntry
  fileSize : Nat
  /-- Whether the sector chains are shown behind the header. -/
  showsChains : Bool
  /-- The bytes of the stream at a path. -/
  fetch : Path → Except FetchFault Bytes

namespace Document

/-- Loads the sector table; it only serves the listing, so a fault in it is noted and no more. -/
def loadTable (data : Bytes) (header : Header) : Logged (Option SectorTable) :=
  try
    let table ← SectorTable.load data header
    return some table
  catch e => do
    Logged.note (.tablesUnavailable e)
    return none

/-- Reads the directory table, if the sectors are known; a fault in it is noted and no more. -/
def loadEntries (data : Bytes) (header : Header) : Option SectorTable → Logged (Option (Array DirectoryEntry))
  | none => return none
  | some table =>
    try
      let entries ← Directory.read data header table
      return some entries
    catch e => do
      Logged.note (.directoryUnreadable e)
      return none

/-- The entries of the directory table, or those on a walk along the tree where there is no table. -/
def listEntries (reader : Reader) : Option (Array DirectoryEntry) → Logged (Array ListedEntry)
  | some stored => return stored.map ListedEntry.ofStored
  | none => do
    Logged.note .treeOrder
    return reader.listing

/-- Opens a document, with a reader for its tree and its payloads. -/
def loadWith (openReader : Opener) (data : Bytes) (config : Config) : Logged Document := do
  match Header.parse data with
  | .error fault => throw (.header fault)
  | .ok header =>
    let table ← loadTable data header
    let stored ← loadEntries data header table
    match openReader data with
    | .error reason => throw (.store reason)
    | .ok reader =>
      let entries ← listEntries reader stored
      Logged.note (.opened data.size header.majorVersion entries.size)
      return ⟨header, table, entries, data.size, config.showSectorChain, reader.fetch⟩

/-- The lines of the summary below its title. -/
def summaryLines (d : Document) : List String :=
  [s!"File size: {d.fileSize} bytes",
    s!"Sector size: {d.header.sectorSize} bytes",
    s!"Number of sectors: {d.header.sectorCount d.fileSize}",
    s!"Directory entries: {d.entries.size}"]

/-- Shows the size of the file and of what it holds. -/
def showSummary (d : Document) : Report Unit := do
  Report.section "Compound Document"
  Report.lines d.summaryLines

/-- Shows the sector chains, where the table could be loaded. -/
def showChains (d : Document) : Report Unit :=
  match d.table with
  | some table => table.showChains d.header
  | none => do
    Report.section SectorTable.title
    Report.line "(unavailable)"

/-- Shows the header, and the sector chains where they are asked for. -/
def showHeader (d : Document) : Report Unit := do
  d.header.show
  if d.showsChains then d.showChains

/-- Shows the listing of the directory. -/
def showDirectory (d : Document) : Report Unit := do
  Report.section "Directory"
  Report.lines (d.entries.toList.map ListedEntry.listingLine)

/-- The names of the entries, in the order of the listing. -/
def names (d : Document) : List String := d.entries.toList.map (·.name)

/-- The first entry called `name`, with its payload. Storages and free slots have none. -/
def lookup (d : Document) (name : String) : Except LookupFault Entry :=
  match d.entries.toList.find? (·.name = name) with
  | none => .error (.noEntry name)
  | some e =>
    match e.type, e.path with
    | .stream, none => .error (.unlinked name)
    | .stream, some path =>
      match d.fetch path with
      | .error fault => .error (.fetch name fault)
      | .ok bytes => .ok ⟨name, bytes⟩
    | _, _ => .ok ⟨name, #[]⟩

/-- The document as a dump sees it. Looking entries up changes nothing. -/
def container (d : Document) : Container Unit where
  showSummary := d.showSummary
  showHeader := d.showHeader
  showDirectory := d.showDirectory
  names := d.names
  lookup name := pure ((d.lookup name).mapError Error.lookup)

end Document

end DeckDump.Compound
