/-!
# Windows-1252

The single-byte character set of the ANSI strings in a presentation. It is Latin-1 but for the
bytes 80 to 9F, most of which are punctuation and letters; the five it leaves undefined keep
their Latin-1 control character.

* `length_decode`: there are as many characters as bytes
-/

namespace DeckDump.Windows1252

/-- The code points of the bytes 80 to 9F, in order. -/
def upperControls : List Nat :=
  [0x20AC, 0x81, 0x201A, 0x192, 0x201E, 0x2026, 0x2020, 0x2021, 0x2C6, 0x2030, 0x160, 0x2039, 0x152, 0x8D, 0x17D,
    0x8F, 0x90, 0x2018, 0x2019, 0x201C, 0x201D, 0x2022, 0x2013, 0x2014, 0x2DC, 0x2122, 0x161, 0x203A, 0x153, 0x9D,
    0x17E, 0x178]

/-- The character of one byte. -/
def decodeByte (b : UInt8) : Char :=
  if b < 0x80 ∨ 0xA0 ≤ b then Char.ofNat b.toNat
  else Char.ofNat (upperControls.getD (b.toNat - 0x80) b.toNat)

/-- The text of a list of bytes. -/
def decode (bs : List UInt8) : String := String.ofList (bs.map decodeByte)

theorem length_decode (bs : List UInt8) : (decode bs).length = bs.length := by
  simp [decode]

end DeckDump.Windows1252
