import DeckDump.Bytes

/-!
# UTF-16

Text stored as 16-bit code units. A high surrogate and the low surrogate behind it are one
character; a surrogate without its partner stands for no character.

* `decode_cons_plain`: a unit that is no surrogate is one character
-/

namespace DeckDump.Utf16

/-- Whether the unit is the first of a surrogate pair. -/
def isHigh (u : UInt16) : Bool := 0xD800 ≤ u && u < 0xDC00

/-- Whether the unit is the second of a surrogate pair. -/
def isLow (u : UInt16) : Bool := 0xDC00 ≤ u && u < 0xE000

/-- The character of the surrogate pair `hi`, `lo`. -/
def pair (hi lo : UInt16) : Char :=
  Char.ofNat (0x10000 + 0x400 * (hi.toNat - 0xD800) + (lo.toNat - 0xDC00))

/-- The characters of a list of code units; `none` for each surrogate without a partner. -/
def decode : List UInt16 → List (Option Char)
  | [] => []
  | [u] => if isHigh u || isLow u then [none] else [some (Char.ofNat u.toNat)]
  | u :: v :: rest =>
    if isHigh u && isLow v then some (pair u v) :: decode rest
    else if isHigh u || isLow u then none :: decode (v :: rest)
    else some (Char.ofNat u.toNat) :: decode (v :: rest)

/-- What is shown in place of a surrogate without a partner. -/
def replacement : Char := '\uFFFD'

/-- The text of a list of code units. -/
def lossy (units : List UInt16) : String :=
  String.ofList ((decode units).map (·.getD replacement))

/-- The text of little-endian code units up to the first zero unit. -/
def textOf (b : Bytes) : String := lossy (b.words16.takeWhile (· ≠ 0))

/-- The code units of one character. -/
def encodeChar (c : Char) : List UInt16 :=
  if c.toNat < 0x10000 then [UInt16.ofNat c.toNat]
  else [UInt16.ofNat (0xD800 + (c.toNat - 0x10000) / 0x400), UInt16.ofNat (0xDC00 + (c.toNat - 0x10000) % 0x400)]

/-- The code units of a text. -/
def encode (cs : List Char) : List UInt16 := cs.flatMap encodeChar

theorem decode_cons_plain (u : UInt16) (rest : List UInt16) (h : isHigh u = false) (l : isLow u = false) :
    decode (u :: rest) = some (Char.ofNat u.toNat) :: decode rest := by
  cases rest <;> simp [decode, h, l]

end DeckDump.Utf16
