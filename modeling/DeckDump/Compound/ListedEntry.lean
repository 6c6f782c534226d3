import DeckDump.Compound.Directory
import DeckDump.Compound.Reader
import DeckDump.Text.Escape
import DeckDump.Text.Numeral
import DeckDump.Text.WhiteSpace

/-!
# Listed entries

What a document keeps of its entries. They are those of the directory table, free slots included; where
the table cannot be read, they are those that a reader comes to along the tree, numbered on the way.
-/

namespace DeckDump.Compound

/-- An identifier as it is listed: with capital digits out of the directory table, with small ones out of
the tree. -/
inductive ListedGuid
  | stored (g : Guid)
  | walked (g : Guid)
deriving DecidableEq

/-- The five groups of a listed identifier. -/
def ListedGuid.text : ListedGuid → String
  | stored g => g.text
  | walked g => g.text.map Char.toLower

/-- An entry of a document. -/
structure ListedEntry where
  /-- Its place in the table or on the walk, counted in 32 bits. -/
  id : EntryId
  name : String
  /-- Its place in the document; an entry that no storage leads to has none. -/
  path : Option Path
  type : ObjectType
  size : UInt64
  /-- Nothing when it is zero. -/
  clsid : Option ListedGuid
  stateBits : UInt32
deriving DecidableEq

/-- The word for the type of a listed entry. -/
def ObjectType.label : ObjectType → String
  | root => "root"
  | storage => "storage"
  | stream => "stream"
  | unused | unknown _ => "unused"

namespace ListedEntry

/-- What is kept of an entry of the directory table. -/
def ofStored (e : DirectoryEntry) : ListedEntry where
  id := e.id
  name := e.name
  path := e.path
  type := e.type
  size := e.size
  clsid := if e.clsid = Guid.nil then none else some (.stored e.clsid)
  stateBits := e.stateBits

/-- What is kept of entry number `id` of a walk. -/
def ofTree (id : EntryId) (e : TreeEntry) : ListedEntry where
  id := id
  name := e.name
  path := some e.path
  type := if e.isRoot then .root else if e.isStorage then .storage else .stream
  size := e.size
  clsid := if e.clsid = Guid.nil then none else some (.walked e.clsid)
  stateBits := e.stateBits

/-- What the listing calls an entry: its path, or its name when it has none. -/
def shownName (e : ListedEntry) : String := e.path.getD e.name

/-- What the listing says of an entry's identifier; nothing when it is zero. -/
def clsidText (e : ListedEntry) : String :=
  match e.clsid with
  | some clsid => s!"  clsid: {clsid.text}"
  | none => ""

/-- What the listing says of an entry's state bits; nothing when they are zero. -/
def stateText (e : ListedEntry) : String :=
  if e.stateBits = 0 then "" else s!"  state: 0x{Text.hex 8 e.stateBits.toNat}"

/-- The line of an entry in the listing. -/
def listingLine (e : ListedEntry) : String :=
  Text.trimEnd (Text.padLeft 3 ' ' (Text.decimal e.id) ++ ": " ++ Text.padRight 7 ' ' e.type.label ++ " " ++
    Text.padLeft 10 ' ' (Text.decimal e.size.toNat) ++ " bytes  " ++ Text.escapeControls e.shownName ++
    e.clsidText ++ e.stateText)

end ListedEntry

/-- The entries of a reader's walk, numbered from zero. -/
def Reader.listing (reader : Reader) : Array ListedEntry :=
  (reader.walk.mapIdx fun i e => ListedEntry.ofTree (UInt32.ofNat i) e).toArray

end DeckDump.Compound
