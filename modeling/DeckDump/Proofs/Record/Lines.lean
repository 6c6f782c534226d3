import DeckDump.Proofs.Record.CurrentUser
import DeckDump.Proofs.Report.HexDump

/-!
# Lines of records

How many lines a record shows, whatever its bytes: one for its header, and for its body as many as its type and
size ask for. None of them has a control character:

* `Atom.controls_labelled`, `RecordHeader.controls_line`: the two kinds of lines that are no hex dump;
* `RecordType.lineCount`: how many lines the body of an atom has;
* `AtomReading.clean_ofBody`: the body of every atom, complete or not, has that many clean lines;
* `Seen.Stands`, `stands_of_mem_listLevel`: what a reading meets is what stands in the bytes;
* `read_showsText`: reading a stream shows the lines of these records.
-/

namespace DeckDump

open Text (Clean)

/-! ## Headers -/

theorem RecordType.controls_name (t : RecordType) : Text.controls t.name = [] := by
  have listed : ∀ entry ∈ names, Text.controls entry.2 = [] := by
    -- one name at a time, as lists of characters: to evaluate the whole table takes long
    unfold names
    repeat refine List.forall_mem_cons.2 ⟨Text.controls_ofList rfl, ?_⟩
    exact nofun
  rw [name]
  cases found : names.lookup t with
  | some n =>
    obtain ⟨front, back, listing, -⟩ := List.lookup_eq_some_iff.1 found
    exact listed (t, n) (listing ▸ List.mem_append_right _ (List.mem_cons_self ..))
  | none =>
    dsimp only
    split <;> rfl

theorem RecordHeader.controls_line (h : RecordHeader) (offset : Nat) : Text.controls (h.line offset) = [] := by
  simp +decide [RecordHeader.line, RecordHeader.name, RecordType.controls_name]

/-! ## Fields -/

namespace Atom

theorem controls_labelled {label value : String} (depth : Nat) (plain : Text.controls label = [])
    (shown : Text.controls value = []) : Text.controls (labelled depth label value) = [] := by
  have spaces : Text.controls (Text.fill (2 * depth) ' ') = [] := Text.controls_fill rfl
  have colon : Text.controls ": " = [] := rfl
  rw [labelled, Text.controls_append, Text.controls_append, Text.controls_append, spaces, plain, colon, shown]
  rfl

/-- Text of the document is shown without control characters. -/
theorem controls_quoted (s : String) : Text.controls (quoted s) = [] := by
  rw [quoted, Text.controls_quoted, Text.controls_escapeControls]

theorem controls_show (f : Form) (n : Nat) : Text.controls (f.show n) = [] := by
  cases f with
  | u8 | u16 | u32 => exact Text.controls_decimal n
  | i32 => exact Text.controls_signedDecimal _
  | flag => by_cases off : n = 0 <;> simp +decide [Form.show, off]
  | bits => simp +decide [Form.show]
  | textKind =>
    have kind : Text.controls (textKinds.getD n "unknown") = [] := Text.controls_getD (by decide +kernel) rfl n
    rw [Form.show, Text.controls_append, Text.controls_append, Text.controls_append, kind, Text.controls_decimal]
    rfl

/-- Whether a row brings no control characters of its own. -/
def Row.Plain (r : Row) : Prop := Text.controls r.label = [] ∧ Text.controls r.between = []

instance (r : Row) : Decidable r.Plain := inferInstanceAs (Decidable (_ ∧ _))

theorem plain_layout {t : RecordType} {l : Layout} (h : layout? t = some l) : ∀ rows ∈ l, ∀ r ∈ rows, r.Plain := by
  rw [layout?] at h
  repeat' split at h
  all_goals cases h
  all_goals decide +kernel

theorem clean_blockLines (depth : Nat) {rows : List Row} (plain : ∀ r ∈ rows, r.Plain) (ns : List Nat) :
    Clean rows.length (blockLines depth rows ns) := by
  refine ⟨blockLines_length depth rows ns, ?_⟩
  induction rows generalizing ns with
  | nil => exact nofun
  | cons r rest ih =>
    rw [List.forall_mem_cons] at plain
    rw [blockLines, List.forall_mem_cons]
    refine ⟨controls_labelled depth plain.1.1 (Text.controls_intercalate plain.1.2 fun s mem => ?_), ih plain.2 _⟩
    rw [← List.map_uncurry_zip_eq_zipWith] at mem
    obtain ⟨⟨f, n⟩, -, rfl⟩ := List.mem_map.1 mem
    exact controls_show f n

/-- How many lines a layout shows of a body that has `room` bytes for it: those of the blocks in front of the first
that does not fit. -/
def Layout.lineCount : (room : Nat) → Layout → Nat
  | _, [] => 0
  | room, rows :: rest =>
    let size := widths (rows.flatMap Row.forms)
    if size ≤ room then rows.length + lineCount (room - size) rest else 0

/-- Of an atom that is too short for its fields, the blocks in front are shown. -/
theorem clean_readLayout (header : RecordHeader) (body : Bytes) (depth : Nat) {l : Layout}
    (plain : ∀ rows ∈ l, ∀ r ∈ rows, r.Plain) {offset : Nat} (inside : offset ≤ body.size) :
    Clean (l.lineCount (body.size - offset)) (readLayout header body depth offset l).lines := by
  induction l generalizing offset with
  | nil => exact .nil
  | cons rows l ih =>
    rw [List.forall_mem_cons] at plain
    have fields := readForms_eq header body (rows.flatMap Row.forms) inside
    rw [readLayout, Layout.lineCount]
    split at fields
    · next fits =>
      obtain ⟨ns, hns⟩ := fields
      rw [if_pos (by omega), hns, Nat.sub_sub]
      exact .append (clean_blockLines depth plain.1 ns) (ih plain.2 fits)
    · next exceeds =>
      obtain ⟨fault, hf⟩ := fields
      rw [if_neg (by omega), hf]
      exact .nil

end Atom

namespace CurrentUser

open Atom (controls_labelled controls_quoted)

/-- How many lines the current user has, whose name may be missing in full or in part. -/
def lineCount (body : Bytes) : Nat :=
  let n := nameLengthOf body
  if body.size < 20 + n then 0
  else 8 + ((if 24 + n ≤ body.size then 1 else 0) + if 24 + 3 * n ≤ body.size then 1 else 0)

theorem controls_tokenMeaning (token : UInt32) : Text.controls (tokenMeaning token) = [] := by
  rw [tokenMeaning]
  split
  · rfl
  split <;> rfl

theorem clean_fixedLines (depth : Nat) (body : Bytes) : Clean 8 (fixedLines depth body) := by
  have token : Text.controls ("0x" ++ Text.hex 8 ((body.u32At? 4).getD 0).toNat ++ " (" ++
      tokenMeaning ((body.u32At? 4).getD 0) ++ ")") = [] := by
    simp +decide [controls_tokenMeaning]
  refine ⟨rfl, ?_⟩
  simp only [fixedLines, List.forall_mem_cons]
  exact ⟨controls_labelled depth rfl (Text.controls_decimal _), controls_labelled depth rfl token,
    controls_labelled depth rfl (Text.controls_decimal _), controls_labelled depth rfl (Text.controls_decimal _),
    controls_labelled depth rfl (by simp +decide), controls_labelled depth rfl (Text.controls_decimal _),
    controls_labelled depth rfl (Text.controls_decimal _), controls_labelled depth rfl (controls_quoted _), nofun⟩

theorem clean_trailingLines (depth : Nat) (body : Bytes) :
    Clean ((if 24 + nameLengthOf body ≤ body.size then 1 else 0) +
      if 24 + 3 * nameLengthOf body ≤ body.size then 1 else 0) (trailingLines depth body) := by
  refine .append ?_ ?_
  · split
    · exact .single (controls_labelled depth rfl (Text.controls_decimal _))
    · exact .nil
  · split
    · exact .single (controls_labelled depth rfl (controls_quoted _))
    · exact .nil

theorem clean_reading (header : RecordHeader) (body : Bytes) (depth : Nat) :
    Clean (lineCount body) (reading header body depth).lines := by
  rw [lineCount]
  split
  · next short =>
    obtain ⟨fault, refused⟩ := reading_of_short header depth short
    rw [refused]
    exact .nil
  · next long =>
    rw [reading_of_long header depth (Nat.not_lt.1 long)]
    exact .append (clean_fixedLines depth body) (clean_trailingLines depth body)

end CurrentUser

/-! ## Bodies -/

/-- How many lines the body of an atom has: one for a text, one for each field that is read, and one for each
sixteen bytes of what is not taken apart. -/
def RecordType.lineCount (t : RecordType) (body : Bytes) : Nat :=
  if t = textCharsAtom ∨ t = textBytesAtom then
    if (t.textOf body).isSome then 1 else HexDump.rowCount body.size
  else if t = cString then 1
  else if t = currentUserAtom then CurrentUser.lineCount body
  else
    match Atom.layout? t with
    | some l => l.lineCount body.size
    | none => HexDump.rowCount body.size

namespace AtomReading

open Atom RecordType

theorem clean_readText (depth : Nat) (body : Bytes) (text : Option String) :
    Clean (if text.isSome then 1 else HexDump.rowCount body.size) (readText depth body text).lines := by
  cases text with
  | none => exact HexDump.clean_lines body
  | some t => exact .single (controls_labelled depth rfl (controls_quoted t))

/-- The body of every atom, be it complete or not, is shown in as many clean lines as it should. -/
theorem clean_ofBody (header : RecordHeader) (body : Bytes) (depth : Nat) :
    Clean (header.type.lineCount body) (ofBody header body depth).lines := by
  have users := CurrentUser.clean_reading header body depth
  have layouts (l : Layout) (plain : ∀ rows ∈ l, ∀ r ∈ rows, r.Plain) :=
    clean_readLayout header body depth plain (Nat.zero_le body.size)
  simp only [ofBody, lineCount]
  generalize header.type = t at *
  by_cases chars : t = textCharsAtom
  · have given : (t.textOf body).isSome = (RecordText.unicode? body).isSome := by
      rw [textOf, if_pos (show t = 0x0FA0 from chars), Option.isSome_map]
    rw [if_pos chars, if_pos (.inl chars), given]
    exact clean_readText depth body _
  by_cases bytes : t = textBytesAtom
  · have given : (t.textOf body).isSome = (RecordText.ansi? body).isSome := by
      rw [textOf, if_neg (show t ≠ 0x0FA0 from chars), if_pos (show t = 0x0FA8 from bytes), Option.isSome_map]
    rw [if_neg chars, if_pos bytes, if_pos (.inr bytes), given]
    exact clean_readText depth body _
  rw [if_neg chars, if_neg bytes, if_neg (not_or.2 ⟨chars, bytes⟩)]
  by_cases string : t = cString
  · rw [if_pos string, if_pos string]
    exact .single (controls_labelled depth rfl (controls_quoted _))
  rw [if_neg string, if_neg string]
  by_cases user : t = currentUserAtom
  · rw [if_pos user, if_pos user]
    exact users
  rw [if_neg user, if_neg user]
  cases found : layout? t with
  | some l => exact layouts l (plain_layout found)
  | none => exact HexDump.clean_lines body

end AtomReading

/-! ## Streams -/

namespace Seen

/-- Whether a record that a reading meets is what stands in the bytes at its offset: a record that holds records
says nothing itself, and an atom says what its body says. -/
def Stands (bytes : Bytes) (r : Seen) : Prop :=
  RecordHeader.readAt? bytes r.offset = some r.header ∧
    r.body = if r.header.isContainer then {}
      else .ofBody r.header (bytes.extract (r.offset + 8) (r.offset + 8 + r.header.length.toNat)) (r.depth + 1)

/-- How many lines a record has: one for its header, and those of its body. -/
def lineCount (bytes : Bytes) (r : Seen) : Nat :=
  1 + if r.header.isContainer then 0
    else r.header.type.lineCount (bytes.extract (r.offset + 8) (r.offset + 8 + r.header.length.toNat))

theorem Stands.clean {bytes : Bytes} {r : Seen} (h : r.Stands bytes) : Clean (r.lineCount bytes) r.lines := by
  have header : Text.controls r.line = [] := by
    rw [line, Text.controls_append, Text.controls_fill rfl, r.header.controls_line]
    rfl
  refine .append (.single header) ?_
  rw [h.2]
  split
  · exact .nil
  · exact AtomReading.clean_ofBody _ _ _

end Seen

namespace RecordStream

/-- A reading meets what stands in the bytes. -/
theorem stands_of_mem_listLevel (bytes : Bytes) (start stop depth : Nat) :
    ∀ r ∈ (listLevel bytes start stop depth).seen, r.Stands bytes := by
  fun_induction listLevel bytes start stop depth with
  | case1 | case2 | case3 | case5 | case6 => exact fun r mem => absurd mem List.not_mem_nil
  | case4 start stop depth shallow more long header found body next fits inside later =>
    intro r mem
    rcases Listing.mem_followedBy mem with here | behind
    · by_cases container : header.isContainer
      · rw [if_pos container] at here
        rcases List.mem_cons.1 here with rfl | held
        · exact ⟨found, (if_pos container).symm⟩
        · exact inside r held
      · rw [if_neg container] at here
        rw [List.mem_singleton.1 here]
        exact ⟨found, (if_neg container).symm⟩
    · exact later r behind

/-- Reading a stream shows the lines of its records, whatever its bytes. -/
theorem read_showsText (logged : Bool) (bytes : Bytes) :
    (read logged bytes).ShowsText (Text.lineText ((list bytes).seen.flatMap Seen.lines)) := by
  rw [read_eq]
  exact Script.showsText (Seen.output_steps logged _)

end RecordStream

end DeckDump
