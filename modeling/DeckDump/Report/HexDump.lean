import DeckDump.Bytes
import DeckDump.Report.Basic

/-!
# Hex dumps

Bytes, sixteen to a line: each line starts with the decimal offset of its first byte, in as many
digits as the last offset has, and each fourth byte is followed by a wider gap. With a block
size, an empty line follows each full line that ends a block.

* `lines_empty`: no bytes are no lines
-/

namespace DeckDump.HexDump

/-- How many bytes a line shows. -/
def perLine : Nat := 16

/-- One byte behind `i` others of its line, with the gap behind it. -/
def cell (b : UInt8) (i : Nat) : String :=
  Text.hexByte b ++ (if (i + 1) % 4 = 0 then "  " else " ")

/-- The line of `piece`, which starts at `offset`. -/
def row (labelWidth offset : Nat) (piece : Bytes) : String :=
  Text.padLeft labelWidth '0' (Text.decimal offset) ++ ": " ++
    String.join (piece.toList.zipIdx.map fun (b, i) => cell b i)

/-- Whether line number `i` (from 0) that shows `piece` is followed by an empty line. -/
def endsBlock (block : Option Nat) (i : Nat) (piece : Bytes) : Bool :=
  match block with
  | none => false
  | some n => piece.size = perLine && (i + 1) % max 1 (n / perLine) = 0

/-- The lines of a hex dump, with an empty line behind each block of `block` bytes if there is one. -/
def lines (bytes : Bytes) (block : Option Nat) : List String :=
  let labelWidth := (Text.decimal (bytes.size - 1)).length
  (bytes.pieces perLine).zipIdx.flatMap fun (piece, i) =>
    row labelWidth (i * perLine) piece :: if endsBlock block i piece then [""] else []

/-- Writes a hex dump. -/
def write (bytes : Bytes) (block : Option Nat) : Report Unit := Report.lines (lines bytes block)

theorem lines_empty (block : Option Nat) : lines #[] block = [] := by
  simp [lines, Bytes.pieces, perLine]

end DeckDump.HexDump
