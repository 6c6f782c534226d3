import DeckDump.Compound.Document
import DeckDump.Compound.Store.Stream

/-!
# The store as a reader

The reader that the program comes with is the checked store. It walks along the tree storage by storage: the
entries of a storage come in the order of their names, each with those below it right behind it.
-/

namespace DeckDump.Compound

namespace Store

/-- A checked entry as it is met at `path`. -/
def Node.met (node : Node) (path : Path) : TreeEntry where
  isRoot := node.type = .root
  isStorage := node.type = .root ∨ node.type = .storage
  name := node.name
  path := path
  size := UInt64.ofNat node.size
  clsid := node.clsid
  stateBits := node.stateBits

/-- The entries of the search tree at `id` inside `parent`, and all below them; `limit` bounds the height. -/
def walkFrom (nodes : Array Node) : (limit : Nat) → (parent : Path) → (id : EntryId) → List TreeEntry
  | 0, _, _ => []
  | limit + 1, parent, id =>
    if id = EntryId.nowhere then []
    else
      match nodes[id.toNat]? with
      | none => []
      | some node =>
        let path := Path.join parent node.name
        walkFrom nodes limit parent node.left ++
          (node.met path :: walkFrom nodes limit path node.child ++ walkFrom nodes limit parent node.right)

/-- All entries of the tree, the root's in front. -/
def walk (s : Store) : List TreeEntry :=
  match s.nodes[0]? with
  | none => []
  | some root => root.met Path.root :: walkFrom s.nodes s.nodes.size Path.root root.child

/-- Opens a document as a store. -/
def openReader : Opener := fun data =>
  match Header.parse data with
  | .error fault => .error fault.message
  | .ok header =>
    match load data header with
    | .error fault => .error fault.message
    | .ok store => .ok ⟨store.walk, store.fetch⟩

end Store

/-- Opens a document with the store as its reader. -/
def Document.load (data : Bytes) (config : Config) : Logged Document := loadWith Store.openReader data config

end DeckDump.Compound
