/-!
# Numerals

Decimal and upper-case hexadecimal text with a least width, and padding with a fill character.
A width never cuts: text that is longer than its width is shown in full.

* `length_padLeft`, `length_padRight`: padded text has the width, or its own length if that is larger
* `length_hexByte`: a byte is two hexadecimal digits
-/

namespace DeckDump.Text

/-- `s` behind as many `fill` characters as bring it to `width` characters. -/
def padLeft (width : Nat) (fill : Char) (s : String) : String :=
  String.ofList (s.toList.leftpad width fill)

/-- `s` in front of as many `fill` characters as bring it to `width` characters. -/
def padRight (width : Nat) (fill : Char) (s : String) : String :=
  String.ofList (s.toList.rightpad width fill)

/-- The decimal digits of `n`. -/
def decimal (n : Nat) : String := String.ofList (Nat.toDigits 10 n)

/-- The decimal digits of `n`, behind a minus sign when it is negative. -/
def signedDecimal (n : Int) : String :=
  if n < 0 then "-" ++ decimal n.natAbs else decimal n.natAbs

/-- The upper-case hexadecimal digits of `n`, with zeros in front up to `width` digits. -/
def hex (width n : Nat) : String :=
  padLeft width '0' (String.ofList ((Nat.toDigits 16 n).map Char.toUpper))

/-- The two hexadecimal digits of a byte. -/
def hexByte (b : UInt8) : String := hex 2 b.toNat

/-- `count` copies of a character. -/
def fill (count : Nat) (c : Char) : String := String.ofList (List.replicate count c)

theorem length_padLeft (width : Nat) (c : Char) (s : String) :
    (padLeft width c s).length = max width s.length := by
  simp only [padLeft, List.leftpad, String.length_ofList, List.length_append, List.length_replicate,
    String.length_toList]
  omega

theorem length_padRight (width : Nat) (c : Char) (s : String) :
    (padRight width c s).length = max width s.length := by
  simp only [padRight, List.rightpad, String.length_ofList, List.length_append, List.length_replicate,
    String.length_toList]
  omega

end DeckDump.Text
