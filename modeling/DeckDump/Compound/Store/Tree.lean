import DeckDump.Compound.Path
import DeckDump.Compound.Store.Node
import DeckDump.Text.Uppercase

/-!
# The tree of entries

The entries of a storage form a search tree by name: shorter names come first, and names of one
length are ordered by their upper-case text. The tree is checked once and then searched.
-/

namespace DeckDump.Compound.Store

/-- The order of two lists of numbers, by the first place at which they differ. -/
def compareLists : List Nat → List Nat → Ordering
  | [], [] => .eq
  | [], _ :: _ => .lt
  | _ :: _, [] => .gt
  | a :: as, b :: bs => if a < b then .lt else if b < a then .gt else compareLists as bs

/-- The code points of the upper case of a name. -/
def upperCodePoints (name : String) : List Nat := (name.toList.flatMap Text.upperCase).map (·.toNat)

/-- How many code units a name has. -/
def nameLength (name : String) : Nat := (Utf16.encode name.toList).length

/-- The order of two names. -/
def compareNames (a b : String) : Ordering :=
  if nameLength a < nameLength b then .lt
  else if nameLength b < nameLength a then .gt
  else compareLists (upperCodePoints a) (upperCodePoints b)

/-- Checks one link of a tree: it leads to an entry, and the name there is in order. -/
def checkSibling (nodes : Array Node) (node : Node) (link : EntryId) (beyond : EntryId → Nat → StoreFault)
    (wanted : Ordering) : Except StoreFault Unit :=
  if link = EntryId.nowhere then .ok ()
  else
    match nodes[link.toNat]? with
    | none => .error (beyond link nodes.size)
    | some sibling =>
      if compareNames sibling.name node.name = wanted then .ok () else .error (.nameOrder node.name sibling.name)

/-- Checks one entry of the tree. -/
def checkNode (nodes : Array Node) (id : EntryId) (node : Node) : Except StoreFault Unit := do
  if id = 0 then
    if node.type ≠ .root then throw (.rootType node.type)
  else if node.type ≠ .storage ∧ node.type ≠ .stream then throw (.nodeType node.type)
  checkSibling nodes node node.left .leftBeyond .lt
  checkSibling nodes node node.right .rightBeyond .gt
  if node.child ≠ EntryId.nowhere ∧ nodes.size ≤ node.child.toNat then throw (.childBeyond node.child nodes.size)

/-- The links of an entry that lead somewhere, the one followed first in front. -/
def Node.links (node : Node) : List EntryId := [node.child, node.right, node.left].filter (· ≠ EntryId.nowhere)

/-- Checks the entries that the pending links lead to. `seen` are the ones checked already, and `limit` is
how many more there are. -/
def checkTree (nodes : Array Node) (limit : Nat) : (pending seen : List EntryId) → Except StoreFault Unit
  | [], _ => .ok ()
  | id :: rest, seen =>
    if id ∈ seen then .error .treeLoop
    else
      match limit, nodes[id.toNat]? with
      | limit + 1, some node => do
        checkNode nodes id node
        checkTree nodes limit (node.links ++ rest) (id :: seen)
      | _, _ => .error .treeLoop

/-- How many bytes a mini sector has. -/
def miniSize : Nat := 64

/-- Checks the directory. -/
def checkDirectory (nodes : Array Node) : Except StoreFault Unit :=
  match nodes[0]? with
  | none => .error .rootMissing
  | some root =>
    if root.size % miniSize ≠ 0 then .error (.rootSize root.size) else checkTree nodes nodes.size [0] []

/-- The entry called `name` in the search tree at `id`, of which `limit` bounds the height. -/
def search (nodes : Array Node) (name : String) : (limit : Nat) → (id : EntryId) → Option EntryId
  | 0, _ => none
  | limit + 1, id =>
    match nodes[id.toNat]? with
    | none => none
    | some node =>
      match compareNames name node.name with
      | .eq => some id
      | .lt => search nodes name limit node.left
      | .gt => search nodes name limit node.right

/-- The entry that names lead to from entry `id` on. -/
def locate (nodes : Array Node) : (id : EntryId) → (names : List String) → Option EntryId
  | id, [] => some id
  | id, name :: rest =>
    match nodes[id.toNat]? with
    | none => none
    | some node =>
      match search nodes name nodes.size node.child with
      | none => none
      | some found => locate nodes found rest

end DeckDump.Compound.Store
