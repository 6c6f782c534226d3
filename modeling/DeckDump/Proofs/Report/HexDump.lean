import DeckDump.Proofs.Bytes
import DeckDump.Proofs.Text.Lines
import DeckDump.Report.HexDump
import Mathlib.Data.List.Basic

/-!
# Hex dumps are read back

What a hex dump shows is enough to get the bytes back, whatever the size of its blocks:

* `IsRow`: what a line has to say of the bytes in it;
* `isRow_row`: the lines of a dump say it;
* `lines_eq`: a dump is its rows, one for each sixteen bytes, and an empty line behind each row that ends a block;
* `bytesOfLine_of_isRow`, `IsDump.readBack_eq`: from each row its bytes are read back, and so from the dump;
* `write_isDump`: what writing a dump does to a sink that never fails.
-/

namespace DeckDump.HexDump

/-- The upper-case hexadecimal digits. -/
def hexDigits : List Char :=
  ['0', '1', '2', '3', '4', '5', '6', '7', '8', '9', 'A', 'B', 'C', 'D', 'E', 'F']

/-- The two digits of a byte. -/
def digitsOf (b : UInt8) : List Char := [hexDigits.getD (b.toNat / 16) ' ', hexDigits.getD (b.toNat % 16) ' ']

/-- What row number `i` shows: the offset of its first byte, in as many decimal digits as `width` says, and
the digits of its bytes, with blanks between them. -/
def IsRow (width i : Nat) (piece : List UInt8) (line : String) : Prop :=
  ∃ label cells : String, line = label ++ ": " ++ cells ∧
    label.length = width ∧ (∀ c ∈ label.toList, c.isDigit = true) ∧ Nat.ofDigitChars 10 label.toList 0 = 16 * i ∧
    cells.toList.filter (· ≠ ' ') = piece.flatMap digitsOf

/-- How many rows show `size` bytes. -/
def rowCount (size : Nat) : Nat := (size + 15) / 16

/-- How many digits the last of `size` offsets has. -/
def labelWidth (size : Nat) : Nat := (Text.decimal (size - 1)).length

/-- Whether row number `i` of `size` bytes ends a block: it is full, and its number, counted from one, is a
multiple of the rows of a block, of which there is at least one. -/
def EndsBlock (size : Nat) (block : Option Nat) (i : Nat) : Prop :=
  ∃ n, block = some n ∧ 16 * (i + 1) ≤ size ∧ max 1 (n / 16) ∣ i + 1

instance (size : Nat) (block : Option Nat) (i : Nat) : Decidable (EndsBlock size block i) :=
  match block with
  | none => isFalse fun ⟨_, h, _⟩ => nomatch h
  | some n =>
    decidable_of_iff (16 * (i + 1) ≤ size ∧ max 1 (n / 16) ∣ i + 1)
      ⟨fun h => ⟨n, rfl, h⟩, fun ⟨_, h, full⟩ => Option.some.inj h ▸ full⟩

/-- The lines of a text that are not empty. -/
def rows (text : String) : List String := (Text.linesOf text).filter (· ≠ "")

/-- What the text of a dump has to say: a row for each sixteen bytes, and an empty line behind each row that
ends a block, and nowhere else. -/
structure IsDump (b : Bytes) (block : Option Nat) (text : String) : Prop where
  whole : text = Text.lineText (Text.linesOf text)
  length_rows : (rows text).length = rowCount b.size
  isRow : ∀ i line, (rows text)[i]? = some line →
    IsRow (labelWidth b.size) i (b.extract (16 * i) (16 * i + 16)).toList line
  blanks : Text.linesOf text = (rows text).zipIdx.flatMap fun (line, i) =>
    line :: if EndsBlock b.size block i then [""] else []

/-- The number that a digit stands for. -/
def digitValue? (c : Char) : Option Nat := hexDigits.idxOf? c

/-- The bytes that digits stand for, two for each. -/
def bytesOfDigits : List Nat → List UInt8
  | hi :: lo :: rest => UInt8.ofNat (16 * hi + lo) :: bytesOfDigits rest
  | _ => []

/-- The bytes that a line shows: the digits behind its colon. -/
def bytesOfLine (line : String) : List UInt8 :=
  bytesOfDigits ((line.toList.dropWhile (· ≠ ':')).filterMap digitValue?)

/-- The bytes that a dump shows. -/
def readBack (text : String) : List UInt8 := (Text.linesOf text).flatMap bytesOfLine

/-! ## Rows -/

theorem toList_hexByte (b : UInt8) : (Text.hexByte b).toList = digitsOf b := by
  cases b with
  | ofBitVec v => revert v; decide +kernel

/-- The offset of a row is not larger than the last one, so its label is as wide as that of all. -/
theorem length_label {size i : Nat} (h : i < rowCount size) :
    (Text.padLeft (labelWidth size) '0' (Text.decimal (16 * i))).length = labelWidth size := by
  have first : 16 * i ≤ size - 1 := by
    rw [rowCount] at h
    omega
  -- numbers with at most as many digits are those below the same power of ten
  have small := (Nat.length_toDigits_le_iff (show 1 < 10 by decide) Nat.length_toDigits_pos).1
    (Nat.le_refl (Nat.toDigits 10 (size - 1)).length)
  have fits := (Nat.length_toDigits_le_iff (show 1 < 10 by decide) Nat.length_toDigits_pos).2
    (Nat.lt_of_le_of_lt first small)
  rw [Text.length_padLeft, labelWidth, Text.decimal, Text.decimal, String.length_ofList, String.length_ofList]
  exact Nat.max_eq_left fits

theorem ofDigitChars_label (width n : Nat) :
    Nat.ofDigitChars 10 (Text.padLeft width '0' (Text.decimal n)).toList 0 = n := by
  rw [Text.padLeft, Text.decimal, String.toList_ofList, String.toList_ofList, List.leftpad, Nat.ofDigitChars_append,
    Nat.ofDigitChars_replicate_zero, Nat.mul_zero, Nat.ofDigitChars_ten_toDigits]

theorem isDigit_label {width n : Nat} {c : Char} (h : c ∈ (Text.padLeft width '0' (Text.decimal n)).toList) :
    c.isDigit = true := by
  rw [Text.padLeft, Text.decimal, String.toList_ofList, String.toList_ofList, List.leftpad, List.mem_append] at h
  rcases h with zero | digit
  · rw [List.eq_of_mem_replicate zero]
    rfl
  · exact Nat.isDigit_of_mem_toDigits (by decide) (by decide) digit

/-- Without the blanks, the cells of a row are the digits of its bytes. -/
theorem filter_cells (bs : List UInt8) (k : Nat) :
    (String.join ((bs.zipIdx k).map fun (b, i) => cell b i)).toList.filter (· ≠ ' ') = bs.flatMap digitsOf := by
  have digits (b : UInt8) : (digitsOf b).filter (· ≠ ' ') = digitsOf b := by
    cases b with
    | ofBitVec v => revert v; decide +kernel
  have gap (i : Nat) : (if (i + 1) % 4 = 0 then "  " else " ").toList.filter (· ≠ ' ') = [] := by
    split <;> rfl
  induction bs generalizing k with
  | nil => rfl
  | cons b bs ih =>
    have first : (cell b k).toList.filter (· ≠ ' ') = digitsOf b := by
      rw [cell, String.toList_append, List.filter_append, toList_hexByte, digits, gap, List.append_nil]
    rw [List.zipIdx_cons, List.map_cons, String.join_cons, String.toList_append, List.filter_append, ih, first,
      List.flatMap_cons]

theorem isRow_row {size i : Nat} (h : i < rowCount size) (piece : Bytes) :
    IsRow (labelWidth size) i piece.toList (row (labelWidth size) (16 * i) piece) :=
  ⟨_, _, rfl, length_label h, fun _ => isDigit_label, ofDigitChars_label _ _, filter_cells piece.toList 0⟩

theorem IsRow.ne_empty {width i : Nat} {piece : List UInt8} {line : String} (h : IsRow width i piece line) :
    line ≠ "" := by
  obtain ⟨label, cells, rfl, -⟩ := h
  simp

/-- A row has no control character. -/
theorem controls_row (width offset : Nat) (piece : Bytes) : Text.controls (row width offset piece) = [] := by
  have cells (bs : List UInt8) (k : Nat) : ((bs.zipIdx k).map fun (b, i) => cell b i).flatMap Text.controls = [] := by
    rw [List.flatMap_eq_nil_iff]
    intro s mem
    obtain ⟨⟨b, i⟩, -, rfl⟩ := List.mem_map.1 mem
    have gap : Text.controls (if (i + 1) % 4 = 0 then "  " else " ") = [] := by split <;> rfl
    simp only [cell, Text.controls_append, Text.controls_hexByte, gap, List.append_nil]
  rw [row, Text.controls_append, Text.controls_append, Text.controls_padLeft rfl, Text.controls_decimal,
    Text.controls_join, cells]
  rfl

/-! ## Dumps -/

theorem zipIdx_map_range {α : Type} (f : Nat → α) (n : Nat) :
    ((List.range n).map f).zipIdx = (List.range n).map fun i => (f i, i) :=
  List.ext_getElem (by simp) fun i _ _ => by simp

/-- Row number `i` of a dump. -/
def rowAt (b : Bytes) (i : Nat) : String := row (labelWidth b.size) (16 * i) (b.extract (16 * i) (16 * i + 16))

/-- A dump is its rows, each with an empty line behind it if it ends a block. -/
theorem lines_eq (b : Bytes) (block : Option Nat) :
    lines b block = (List.range (rowCount b.size)).flatMap fun i =>
      rowAt b i :: if EndsBlock b.size block i then [""] else [] := by
  have numbered : (b.pieces perLine).zipIdx =
      (List.range (rowCount b.size)).map fun i => (b.extract (16 * i) (16 * i + 16), i) := by
    simp only [Bytes.pieces, zipIdx_map_range, perLine, Nat.mul_comm _ 16]
    rfl
  have ends {i : Nat} (inside : i < rowCount b.size) :
      endsBlock block i (b.extract (16 * i) (16 * i + 16)) = true ↔ EndsBlock b.size block i := by
    rw [rowCount] at inside
    cases block with
    | none => simp [endsBlock, EndsBlock]
    | some n =>
      have full : (b.extract (16 * i) (16 * i + 16)).size = perLine ↔ 16 * (i + 1) ≤ b.size := by
        rw [Array.size_extract, perLine]
        omega
      rw [endsBlock, Bool.and_eq_true, decide_eq_true_iff, decide_eq_true_iff, full, ← Nat.dvd_iff_mod_eq_zero,
        EndsBlock]
      simp only [Option.some.injEq, exists_eq_left', perLine]
  rw [lines, numbered, List.flatMap_map]
  refine List.flatMap_congr fun i mem => ?_
  have inside := List.mem_range.1 mem
  simp only [ends inside, rowAt, labelWidth, perLine, Nat.mul_comm i 16]

/-- No line of a dump has a control character. -/
theorem controls_lines (b : Bytes) (block : Option Nat) : ∀ l ∈ lines b block, Text.controls l = [] := by
  intro l mem
  rw [lines_eq] at mem
  obtain ⟨i, -, mem⟩ := List.mem_flatMap.1 mem
  rcases List.mem_cons.1 mem with rfl | gap
  · exact controls_row _ _ _
  · split at gap
    · rw [List.mem_singleton.1 gap]
      rfl
    · exact absurd gap List.not_mem_nil

/-- Without blocks, a dump has one line for each row. -/
theorem clean_lines (b : Bytes) : Text.Clean (rowCount b.size) (lines b none) := by
  refine ⟨?_, controls_lines b none⟩
  have single (i : Nat) : (if EndsBlock b.size none i then [""] else []) = [] := if_neg (by simp [EndsBlock])
  simp only [lines_eq, single]
  rw [← List.map_eq_flatMap, List.length_map, List.length_range]

/-- The lines of a dump say what they have to. -/
theorem isDump_lines (b : Bytes) (block : Option Nat) : IsDump b block (Text.lineText (lines b block)) := by
  have shown := Text.linesOf_lineText (controls_lines b block)
  have row_ne {i : Nat} (inside : i < rowCount b.size) : rowAt b i ≠ "" := (isRow_row inside _).ne_empty
  have rows_eq : rows (Text.lineText (lines b block)) = (List.range (rowCount b.size)).map (rowAt b) := by
    rw [rows, shown, lines_eq, List.filter_flatMap, List.map_eq_flatMap]
    refine List.flatMap_congr fun i mem => ?_
    rw [List.filter_cons_of_pos (by simpa using row_ne (List.mem_range.1 mem))]
    split <;> rfl
  constructor
  case whole => rw [shown]
  case length_rows => rw [rows_eq, List.length_map, List.length_range]
  case isRow =>
    intro i line at_i
    rw [rows_eq, List.getElem?_map] at at_i
    obtain ⟨j, found, rfl⟩ := Option.map_eq_some_iff.1 at_i
    obtain ⟨inside, rfl⟩ := List.getElem?_eq_some_iff.1 found
    rw [List.getElem_range]
    exact isRow_row (by simpa using inside) _
  case blanks =>
    rw [rows_eq, shown, zipIdx_map_range, List.flatMap_map, lines_eq]

/-! ## Reading back -/

theorem bytesOfDigits_flatMap (bs : List UInt8) :
    bytesOfDigits (bs.flatMap fun b => [b.toNat / 16, b.toNat % 16]) = bs := by
  induction bs with
  | nil => rfl
  | cons b bs ih =>
    have whole : 16 * (b.toNat / 16) + b.toNat % 16 = b.toNat := Nat.div_add_mod b.toNat 16
    rw [List.flatMap_cons, List.cons_append, List.cons_append, bytesOfDigits, List.nil_append, ih, whole,
      UInt8.ofNat_toNat]

/-- The two digits of a byte stand for its two halves. -/
theorem filterMap_digitsOf (b : UInt8) : (digitsOf b).filterMap digitValue? = [b.toNat / 16, b.toNat % 16] := by
  cases b with
  | ofBitVec v => revert v; decide +kernel

/-- The bytes of a row are read back from it, whatever its number and the width of its label. -/
theorem bytesOfLine_of_isRow {width i : Nat} {piece : List UInt8} {line : String} (h : IsRow width i piece line) :
    bytesOfLine line = piece := by
  obtain ⟨label, cells, rfl, -, digits, -, shown⟩ := h
  have behind : (label ++ ": " ++ cells).toList.dropWhile (· ≠ ':') = ':' :: ' ' :: cells.toList := by
    rw [String.toList_append, String.toList_append, List.append_assoc, List.dropWhile_append_of_pos]
    · rfl
    · -- no digit is a colon
      intro c mem
      have digit := digits c mem
      rw [decide_eq_true_iff]
      rintro rfl
      cases digit
  have visible : cells.toList.filterMap digitValue? = (cells.toList.filter (· ≠ ' ')).filterMap digitValue? := by
    rw [List.filterMap_filter]
    refine congrArg (List.filterMap · cells.toList) (funext fun c => ?_)
    by_cases blank : c = ' '
    · rw [blank]
      rfl
    · rw [if_pos (by simpa using blank)]
  have values : (piece.flatMap digitsOf).filterMap digitValue? =
      piece.flatMap fun b => [b.toNat / 16, b.toNat % 16] := by
    rw [List.filterMap_flatMap]
    simp only [filterMap_digitsOf]
  have skipped : (':' :: ' ' :: cells.toList).filterMap digitValue? = cells.toList.filterMap digitValue? := rfl
  rw [bytesOfLine, behind, skipped, visible, shown, values, bytesOfDigits_flatMap]

/-- The bytes of a dump are read back from it, whatever the size of its blocks. -/
theorem IsDump.readBack_eq {b : Bytes} {block : Option Nat} {text : String} (h : IsDump b block text) :
    readBack text = b.toList := by
  -- an empty line shows no bytes
  have visible (ls : List String) : ls.flatMap bytesOfLine = (ls.filter (· ≠ "")).flatMap bytesOfLine := by
    induction ls with
    | nil => rfl
    | cons l ls ih =>
      by_cases empty : l = ""
      · rw [empty, List.flatMap_cons, ih]
        rfl
      · rw [List.filter_cons_of_pos (by simpa using empty), List.flatMap_cons, List.flatMap_cons, ih]
  have pieces : (rows text).map bytesOfLine =
      (List.range (rowCount b.size)).map fun i => (b.extract (0 + i * 16) (0 + i * 16 + 16)).toList := by
    refine List.ext_getElem (by simp [h.length_rows]) fun i inside _ => ?_
    rw [List.length_map] at inside
    rw [List.getElem_map, List.getElem_map, List.getElem_range, Nat.zero_add, Nat.mul_comm i 16]
    exact bytesOfLine_of_isRow (h.isRow i _ (List.getElem?_eq_getElem inside))
  rw [readBack, visible, ← rows, List.flatMap_def, pieces, ← List.flatMap_def, Bytes.flatMap_extract,
    Array.extract_eq_self_of_le (by rw [rowCount]; omega)]

/-! ## Writing -/

/-- In a block of whole rows, the rows that end a block are the full ones that end at a multiple of its size. -/
theorem endsBlock_iff {n : Nat} (rowsOfSixteen : 16 ∣ n) (nonempty : 0 < n) (size i : Nat) :
    EndsBlock size (some n) i ↔ 16 * (i + 1) ≤ size ∧ n ∣ 16 * (i + 1) := by
  obtain ⟨k, rfl⟩ := rowsOfSixteen
  have count : max 1 (16 * k / 16) = k := by omega
  simp only [EndsBlock, Option.some.injEq, exists_eq_left', count, Nat.mul_dvd_mul_iff_left (show 0 < 16 by decide)]

/-- Writing a dump ends well on every sink that never fails, and what it writes says what it has to and no
other bytes have it as their dump. -/
theorem write_isDump (b : Bytes) (block : Option Nat) (s : Session) (free : s.sink.NeverFails) :
    ∃ text, write b block s =
        (.ok (), { s with sink := { s.sink with written := s.sink.written ++ s.sink.shows text.toUTF8 } }) ∧
      IsDump b block text ∧ (b = #[] → text = "") ∧
      (∀ n i, block = some n → 16 ∣ n → 0 < n →
        (EndsBlock b.size block i ↔ 16 * (i + 1) ≤ b.size ∧ n ∣ 16 * (i + 1))) ∧
      readBack text = b.toList ∧
      (s.sink.muted = false → ∀ b' block',
        (write b' block' s).2.sink.written = (write b block s).2.sink.written → b' = b) := by
  have run (b : Bytes) (block : Option Nat) : write b block s = (.ok (), { s with sink := { s.sink with
      written := s.sink.written ++ s.sink.shows (Text.lineText (lines b block)).toUTF8 } }) :=
    Report.lines_of_neverFails _ free
  have dump := isDump_lines b block
  refine ⟨_, run b block, dump, ?_, ?_, dump.readBack_eq, fun open_ b' block' same => ?_⟩
  · rintro rfl
    rw [lines_empty]
    rfl
  · rintro n i rfl
    exact fun rowsOfSixteen nonempty => endsBlock_iff rowsOfSixteen nonempty _ i
  · rw [run, run] at same
    simp only [Sink.shows, open_, Bool.false_eq_true, if_false, ByteArray.append_right_inj] at same
    have texts := String.toByteArray_inj.1 same
    have bytes := (isDump_lines b' block').readBack_eq
    rw [texts, dump.readBack_eq] at bytes
    exact (Array.toList_inj.1 bytes).symm

/-- Seventeen bytes in blocks of sixteen: an empty line behind the first row, and none behind the second one,
which is not full. -/
theorem write_isDump_cutRow :
    ∃ text, write (Array.ofFn fun i : Fin 17 => UInt8.ofNat (15 * i.val)) (some 16) {} =
        (.ok (), { sink := { written := text.toUTF8 } }) ∧
      text = "00: 00 0F 1E 2D  3C 4B 5A 69  78 87 96 A5  B4 C3 D2 E1  \n\n16: F0 \n" ∧
      readBack text = (List.ofFn fun i : Fin 17 => UInt8.ofNat (15 * i.val)) := by
  obtain ⟨text, run, -, -, -, back, -⟩ :=
    write_isDump (Array.ofFn fun i : Fin 17 => UInt8.ofNat (15 * i.val)) (some 16) {} (.inr rfl)
  have shown : lines (Array.ofFn fun i : Fin 17 => UInt8.ofNat (15 * i.val)) (some 16) =
      ["00: 00 0F 1E 2D  3C 4B 5A 69  78 87 96 A5  B4 C3 D2 E1  ", "", "16: F0 "] := by decide +kernel
  have same := run.symm.trans (Report.lines_of_neverFails _ (.inr rfl))
  rw [shown] at same
  have written := congrArg (fun outcome => outcome.2.sink.written) same
  refine ⟨text, ?_, ?_, back⟩
  · rw [run]
    simp [Sink.shows]
  · refine Eq.trans ?_ (show Text.lineText ["00: 00 0F 1E 2D  3C 4B 5A 69  78 87 96 A5  B4 C3 D2 E1  ", "",
      "16: F0 "] = _ by decide +kernel)
    exact String.toByteArray_inj.1 (by simpa [Sink.shows] using written)

end DeckDump.HexDump
