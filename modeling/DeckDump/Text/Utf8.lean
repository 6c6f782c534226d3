import DeckDump.Bytes

/-!
# Damaged UTF-8

Bytes that were meant as UTF-8, as they are shown. Where they are none, each longest stretch that
begins a character, and each byte that begins none, is shown as one replacement character.
-/

namespace DeckDump.Text

/-- What has to stand behind the first byte of a character: how many bytes, and the bounds of the first. -/
structure Utf8Tail where
  length : Nat
  low : UInt8 := 0x80
  high : UInt8 := 0xBF

/-- What has to stand behind `b`, if it begins a character of more than one byte. -/
def utf8Tail? (b : UInt8) : Option Utf8Tail :=
  if b < 0xC2 then none
  else if b < 0xE0 then some { length := 1 }
  else if b = 0xE0 then some { length := 2, low := 0xA0 }
  else if b = 0xED then some { length := 2, high := 0x9F }
  else if b < 0xF0 then some { length := 2 }
  else if b = 0xF0 then some { length := 3, low := 0x90 }
  else if b = 0xF4 then some { length := 3, high := 0x8F }
  else if b < 0xF4 then some { length := 3 }
  else none

/-- The bytes that go on with a character which wants `length` more, the first of them between `low` and `high`. -/
def utf8Rest (low high : UInt8) : (length : Nat) → List UInt8 → List UInt8
  | length + 1, b :: bs => if low ≤ b ∧ b ≤ high then b :: utf8Rest 0x80 0xBF length bs else []
  | _, _ => []

/-- The character whose first byte is `b`, when `rest` are its other bytes. -/
def utf8Char (b : UInt8) (rest : List UInt8) : Char :=
  Char.ofNat (rest.foldl (fun n c => 64 * n + c.toNat % 64) (b.toNat % (64 >>> rest.length)))

/-- What is shown of bytes, character by character. -/
def decodeDamaged : List UInt8 → List Char
  | [] => []
  | b :: bs =>
    if b < 0x80 then Char.ofNat b.toNat :: decodeDamaged bs
    else
      match utf8Tail? b with
      | none => '\uFFFD' :: decodeDamaged bs
      | some tail =>
        let rest := utf8Rest tail.low tail.high tail.length bs
        (if rest.length = tail.length then utf8Char b rest else '\uFFFD') :: decodeDamaged (bs.drop rest.length)
termination_by bs => bs.length

/-- What is shown of bytes. -/
def damagedUtf8 (b : Bytes) : String := String.ofList (decodeDamaged b.toList)

end DeckDump.Text
