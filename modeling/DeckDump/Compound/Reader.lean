import DeckDump.Compound.Fault
import DeckDump.Compound.Path
import DeckDump.Guid

/-!
# Readers of compound documents

The tree of a document and the payloads in it come from a reader of compound documents, which is no
part of the dump. What is asked of one is stated here and no more: it opens the bytes of a file or
says why it does not, it walks along the tree of what it has opened, and it fetches the bytes of the
stream at a path.
-/

namespace DeckDump.Compound

/-- An entry as a reader comes to it on its walk along the tree. -/
structure TreeEntry where
  isRoot : Bool
  isStorage : Bool
  name : String
  path : Path
  size : UInt64
  clsid : Guid
  stateBits : UInt32
deriving DecidableEq

/-- A document that a reader has opened. -/
structure Reader where
  /-- The entries of the tree, in the order of the walk. -/
  walk : List TreeEntry
  /-- The bytes of the stream at a path. -/
  fetch : Path → Except FetchFault Bytes

/-- What opens a document for reading, or says in its own words why it does not. -/
abbrev Opener := Bytes → Except String Reader

end DeckDump.Compound
