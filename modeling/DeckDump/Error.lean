import DeckDump.Compound.Fault
import DeckDump.PropertySet.Fault
import DeckDump.Record.Fault

/-!
# Errors

Why an operation ended early: each cause belongs to one kind, and the kind decides how the
error is treated. Only an output failure says nothing about the document.
-/

namespace DeckDump

/-- The kinds of errors. -/
inductive ErrorKind
  /-- Input could not be read or output could not be written. -/
  | io
  /-- The file is no compound document. -/
  | unsupportedFormat
  /-- The header or a table is damaged. -/
  | corruptedFile
  /-- The reader of compound documents refused the file. -/
  | compoundFile
  | streamLookup
  | recordDecode
  | propertySetDecode
deriving DecidableEq, Repr

/-- What stands in front of the detail of an error. -/
def ErrorKind.heading : ErrorKind → String
  | .io => "I/O error: "
  | .unsupportedFormat => "Unsupported or unrecognized file format: "
  | .corruptedFile => "Invalid or corrupted file: "
  | .compoundFile => "OLE/CFB error: "
  | .streamLookup => "Stream lookup failed: "
  | .recordDecode => "Record decoding error: "
  | .propertySetDecode => "Property set decoding error: "

/-- The cause of an early end. -/
inductive Error
  /-- The sink or the file system failed. -/
  | io (reason : String)
  | header (fault : Compound.HeaderFault)
  | table (fault : Compound.TableFault)
  /-- The reader of compound documents refused the file, in its own words. -/
  | store (reason : String)
  | lookup (fault : Compound.LookupFault)
  | record (fault : RecordFault)
  | propertySet (fault : PropertySetFault)
  /-- An error that a container or decoder from elsewhere reports in its own words. -/
  | reported (kind : ErrorKind) (detail : String)
deriving DecidableEq, Repr

namespace Error

/-- The kind of an error. -/
def kind : Error → ErrorKind
  | io _ => .io
  | header fault => if fault.isForeign then .unsupportedFormat else .corruptedFile
  | table _ => .corruptedFile
  | store _ => .compoundFile
  | lookup _ => .streamLookup
  | record _ => .recordDecode
  | propertySet _ => .propertySetDecode
  | reported kind _ => kind

/-- What an error says behind its heading. -/
def detail : Error → String
  | io reason => reason
  | header fault => fault.message
  | table fault => fault.message
  | store reason => "Failed to open CFB container: " ++ reason
  | lookup fault => fault.message
  | record fault => fault.message
  | propertySet fault => fault.message
  | reported _ detail => detail

/-- The whole text of an error. -/
def message (e : Error) : String := e.kind.heading ++ e.detail

/-- Whether the error is about the output and not about the document. -/
def isOutputFailure (e : Error) : Bool := e.kind = .io

/-- The texts of an error and of what caused it: behind an output failure stands the system's own reason. -/
def causes (e : Error) : List String := e.message :: if e.isOutputFailure then [e.detail] else []

end Error

end DeckDump
