/-!
# Object types

What an entry of the directory of a compound document stands for.

* `toByte_ofByte`: the type byte can be read back
-/

namespace DeckDump.Compound

/-- The type byte of a directory entry. -/
inductive ObjectType
  /-- A free slot. -/
  | unused
  | storage
  | stream
  | root
  /-- A byte that stands for no type. -/
  | unknown (byte : UInt8)
deriving DecidableEq, Repr, Inhabited

namespace ObjectType

/-- The type that a byte stands for. -/
def ofByte (b : UInt8) : ObjectType :=
  if b = 0 then unused else if b = 1 then storage else if b = 2 then stream else if b = 5 then root
  else unknown b

/-- The byte of a type. -/
def toByte : ObjectType → UInt8
  | unused => 0
  | storage => 1
  | stream => 2
  | root => 5
  | unknown b => b

/-- Whether entries of the type have entries below them. -/
def hasChildren : ObjectType → Bool
  | storage | root => true
  | unused | stream | unknown _ => false

theorem toByte_ofByte (b : UInt8) : (ofByte b).toByte = b := by
  grind [ofByte, toByte]

end ObjectType

end DeckDump.Compound
