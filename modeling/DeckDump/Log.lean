import DeckDump.Config
import DeckDump.Error

/-!
# Log

What a dump notes besides its output. Every event is kept, whatever its level; who shows the log
chooses the least severe level that is shown.
-/

namespace DeckDump

/-- How severe an event is. -/
inductive Level
  | error
  | warn
  | debug
  | trace
deriving DecidableEq, Repr

namespace Level

/-- The level's name. -/
def label : Level → String
  | error => "ERROR"
  | warn => "WARN"
  | debug => "DEBUG"
  | trace => "TRACE"

/-- The level's place, the most severe first. -/
def rank : Level → Nat
  | error => 0
  | warn => 1
  | debug => 2
  | trace => 3

/-- Whether a log down to level `l` includes events of level `k`. -/
def includes (l k : Level) : Bool := k.rank ≤ l.rank

end Level

/-- Something noted in the log. -/
inductive Event
  | unknownOption (option : String)
  | dumping (path : String) (config : Config)
  | failure
  | difatLoop (sector : UInt32)
  | difatTooLong (listed sectors : Nat)
  | fatCount (declared : UInt32) (listed : Nat)
  | fatLoaded (sectors entries : Nat)
  | directoryRead (entries : Nat)
  | tablesUnavailable (error : Error)
  | directoryUnreadable (error : Error)
  | treeOrder
  | opened (size : Nat) (version : UInt16) (entries : Nat)
  | sectionTable (stop : Nat)
  | longSection (properties shown : Nat)
  | recordHeader (type : RecordType) (offset depth : Nat) (length : UInt32)
  | textKept (bytes : Nat)
  | lookupFailed (name : String) (error : Error)
  | recordsFailed (name reason : String)
  | propertySetFailed (name reason : String)
  | walked (entries : Nat) (success aborted : Bool)
deriving DecidableEq, Repr

namespace Event

/-- How severe an event is. -/
def level : Event → Level
  | failure | lookupFailed .. | recordsFailed .. => .error
  | unknownOption _ | difatLoop _ | difatTooLong .. | fatCount .. | tablesUnavailable _ | directoryUnreadable _
  | treeOrder | longSection .. | propertySetFailed .. => .warn
  | dumping .. | fatLoaded .. | directoryRead _ | opened .. | sectionTable _ | recordHeader .. | walked .. => .debug
  | textKept _ => .trace

/-- The part of the program that notes the event, as log lines show it. -/
def origin : Event → String
  | unknownOption _ | dumping .. | failure => "ppt_dump"
  | difatLoop _ | difatTooLong .. | fatCount .. | fatLoaded .. => "ppt_dump_ole::header"
  | directoryRead _ => "ppt_dump_ole::directory"
  | tablesUnavailable _ | directoryUnreadable _ | treeOrder | opened .. => "ppt_dump_ole::container"
  | sectionTable _ | longSection .. => "ppt_dump_ole::propset"
  | recordHeader .. => "ppt_dump_ppt::decoder"
  | textKept _ => "ppt_dump_core::text"
  | lookupFailed .. | recordsFailed .. | propertySetFailed .. | walked .. => "ppt_dump_ppt::dumper"

/-- The word for a truth value. -/
def truth (b : Bool) : String := if b then "true" else "false"

/-- A configuration, as the log shows it. -/
def configText (c : Config) : String :=
  let fields := Flag.all.map fun f => s!"{f.field}: {truth (c.get f)}"
  "DumpConfig \x7b " ++ String.intercalate ", " fields ++ " \x7d"

/-- What the log says of an event. -/
def message : Event → String
  | unknownOption option => s!"Ignoring unknown option {option}"
  | dumping path config => s!"Dumping {path} with {configText config}"
  | failure => "FAILURE"
  | difatLoop sector => s!"DIFAT chain loops back to sector {sector.toNat}"
  | difatTooLong listed sectors =>
    s!"DIFAT lists {listed} FAT sectors but the file only has {sectors} sectors"
  | fatCount declared listed => s!"Header declares {declared.toNat} FAT sectors but the DIFAT lists {listed}"
  | fatLoaded sectors entries => s!"Loaded FAT: {sectors} sectors, {entries} entries"
  | directoryRead entries => s!"Read {entries} directory entries"
  | tablesUnavailable error => s!"Sector tables unavailable: {error.message}"
  | directoryUnreadable error => s!"Directory table unreadable: {error.message}"
  | treeOrder => "Listing directory entries in tree order"
  | opened size version entries =>
    s!"Opened compound file: {size} bytes, version {version.toNat}, {entries} directory entries"
  | sectionTable stop => s!"Property set section table ends at offset {stop}"
  | longSection properties shown => s!"Section declares {properties} properties, listing the first {shown}"
  | recordHeader type offset depth length =>
    s!"record 0x{Text.hex 4 type.toNat} ({type.name}) at offset {offset}, depth {depth}, {length.toNat} bytes"
  | textKept bytes => s!"accumulated {bytes} chars of text"
  | lookupFailed name error => s!"Failed to look up '{Text.escapeControls name}': {error.message}"
  | recordsFailed name reason | propertySetFailed name reason =>
    s!"Failed to decode '{Text.escapeControls name}': {reason}"
  | walked entries success aborted =>
    s!"Visited {entries} entries, success={truth success}, aborted={truth aborted}"

end Event

end DeckDump
