import DeckDump.Record.CurrentUser

/-!
# What atoms need and give

An atom is read to its end iff its body has the bytes that its type needs, whatever they hold; and
only the two text atoms give text:

* `CurrentUser.read_of_long`: the current user is read from its offsets when its fixed fields and name are there;
* `fault_ofBody_eq_none_iff`: an atom has no fault iff its body is as long as `needed`;
* `text_ofBody`: the text an atom gives is that of `textOf`;
* `lines_of_text`: an atom that gives text shows one line.
-/

namespace DeckDump

/-- How many bytes the body of an atom must have; `body` matters for the current user alone, whose
name has the length stored at offset 12. -/
def RecordType.needed (t : RecordType) (body : Bytes) : Nat :=
  if t = 0x0F9F then 4
  else if t = 0x03F3 then 16
  else if t = 0x03E9 then 40
  else if t = 0x0FF5 then 26
  else if t = 0x0FF6 then 20 + ((body.u16At? 12).getD 0).toNat
  else 0

/-- The fragment that an atom adds to the text: the text of its body, if it is a text atom and holds
any, and a line feed. -/
def RecordType.textOf (t : RecordType) (body : Bytes) : Option String :=
  if t = 0x0FA0 then (RecordText.unicode? body).map (· ++ "\n")
  else if t = 0x0FA8 then (RecordText.ansi? body).map (· ++ "\n")
  else none

namespace Atom

theorem valueAt?_isSome (f : Form) (body : Bytes) (offset : Nat) :
    (f.valueAt? body offset).isSome = true ↔ offset + f.width ≤ body.size := by
  cases f with
  | u8 | flag =>
    show _ ↔ offset < body.size
    simp [Form.valueAt?]
  | u16 => simpa [Form.valueAt?, Form.width] using body.u16At?_isSome offset
  | u32 | i32 | bits | textKind => simpa [Form.valueAt?, Form.width] using body.u32At?_isSome offset

/-- How many bytes fields have that follow each other. -/
def widths : List Form → Nat
  | [] => 0
  | f :: fs => f.width + widths fs

theorem widths_append (fs gs : List Form) : widths (fs ++ gs) = widths fs + widths gs := by
  induction fs with
  | nil => simp [widths]
  | cons f fs ih => simp [widths, ih, Nat.add_assoc]

/-- Fields are read iff the last of them ends inside the body. -/
theorem readForms_eq (header : RecordHeader) (body : Bytes) (fs : List Form) {offset : Nat} (h : offset ≤ body.size) :
    if offset + widths fs ≤ body.size then ∃ ns, readForms header body offset fs = .ok (ns, offset + widths fs)
    else ∃ fault, readForms header body offset fs = .error fault := by
  induction fs generalizing offset with
  | nil => exact (if_pos h).mpr ⟨[], rfl⟩
  | cons f fs ih =>
    have width : widths (f :: fs) = f.width + widths fs := rfl
    cases value : f.valueAt? body offset with
    | none =>
      have short : ¬ offset + f.width ≤ body.size := fun le => by
        simpa [value] using (valueAt?_isSome f body offset).2 le
      rw [if_neg (by omega)]
      exact ⟨_, by rw [readForms, value]⟩
    | some n =>
      have fits := (valueAt?_isSome f body offset).1 (by simp [value])
      have later := ih fits
      rw [width, ← Nat.add_assoc]
      split at later
      · next le =>
        obtain ⟨ns, hns⟩ := later
        rw [if_pos le]
        exact ⟨n :: ns, by simp only [readForms, value, hns]; rfl⟩
      · next nle =>
        obtain ⟨fault, hf⟩ := later
        rw [if_neg nle]
        exact ⟨fault, by simp only [readForms, value, hf]; rfl⟩

/-- All fields of a layout. -/
def Layout.forms (l : Layout) : List Form := l.flatMap fun rows => rows.flatMap Row.forms

theorem fault_readLayout_eq_none_iff (header : RecordHeader) (body : Bytes) (depth : Nat) (l : Layout) {offset : Nat}
    (h : offset ≤ body.size) :
    (readLayout header body depth offset l).fault = none ↔ offset + widths l.forms ≤ body.size := by
  induction l generalizing offset with
  | nil => simpa [readLayout, Layout.forms, widths] using h
  | cons rows l ih =>
    have width : widths (Layout.forms (rows :: l)) = widths (rows.flatMap Row.forms) + widths (Layout.forms l) := by
      rw [Layout.forms, List.flatMap_cons, widths_append, Layout.forms]
    have first := readForms_eq header body (rows.flatMap Row.forms) h
    rw [readLayout, width]
    split at first
    · next le =>
      obtain ⟨ns, hns⟩ := first
      simp only [hns]
      rw [ih le, Nat.add_assoc]
    · next nle =>
      obtain ⟨fault, hf⟩ := first
      simp only [hf]
      exact iff_of_false (by simp) (by omega)

theorem text_readLayout (header : RecordHeader) (body : Bytes) (depth offset : Nat) (l : Layout) :
    (readLayout header body depth offset l).text = none := by
  induction l generalizing offset with
  | nil => rfl
  | cons rows l ih =>
    rw [readLayout]
    split
    · rfl
    · exact ih _

end Atom

namespace CurrentUser

theorem need_bind {α β : Type} (header : RecordHeader) (body : Bytes) (width offset : Nat) (value : Option α)
    (f : α → Except RecordFault β) :
    need header body width offset value >>= f =
      match value with
      | none => .error (.fieldTooShort header.type body.size width offset)
      | some v => f v := by
  cases value <;> rfl

/-- How many characters the name of the user has. -/
def nameLengthOf (body : Bytes) : Nat := ((body.u16At? 12).getD 0).toNat

/-- The atom of a body that has all fixed fields. -/
def ofBody (body : Bytes) : CurrentUser :=
  let n := nameLengthOf body
  { size := (body.u32At? 0).getD 0
    token := (body.u32At? 4).getD 0
    currentEdit := (body.u32At? 8).getD 0
    nameLength := (body.u16At? 12).getD 0
    fileVersion := (body.u16At? 14).getD 0
    majorVersion := body.getD 16 0
    minorVersion := body.getD 17 0
    ansiName := body.extract 20 (20 + n)
    releaseVersion := body.u32At? (20 + n)
    unicodeName := if 24 + 3 * n ≤ body.size then some (body.extract (24 + n) (24 + 3 * n)) else none }

theorem read_of_long (header : RecordHeader) {body : Bytes} (long : 20 + nameLengthOf body ≤ body.size) :
    CurrentUser.read header body = .ok (ofBody body) := by
  obtain ⟨_, h₀⟩ := Option.isSome_iff_exists.1 ((body.u32At?_isSome 0).2 (by omega))
  obtain ⟨_, h₄⟩ := Option.isSome_iff_exists.1 ((body.u32At?_isSome 4).2 (by omega))
  obtain ⟨_, h₈⟩ := Option.isSome_iff_exists.1 ((body.u32At?_isSome 8).2 (by omega))
  obtain ⟨length, h₁₂⟩ := Option.isSome_iff_exists.1 ((body.u16At?_isSome 12).2 (by omega))
  obtain ⟨_, h₁₄⟩ := Option.isSome_iff_exists.1 ((body.u16At?_isSome 14).2 (by omega))
  obtain ⟨_, h₁₈⟩ := Option.isSome_iff_exists.1 ((body.u16At?_isSome 18).2 (by omega))
  have h₁₆ : body[16]? = some (body.getD 16 0) := by simp [Array.getElem?_eq_getElem (show 16 < body.size by omega)]
  have h₁₇ : body[17]? = some (body.getD 17 0) := by simp [Array.getElem?_eq_getElem (show 17 < body.size by omega)]
  have name : nameLengthOf body = length.toNat := by rw [nameLengthOf, h₁₂, Option.getD_some]
  rw [name] at long
  have h₂₀ : body.slice? 20 length.toNat = some (body.extract 20 (20 + length.toNat)) := if_pos long
  -- the name in code units is asked for only behind a release version, but it cannot be there without one
  have unicode : (if (body.u32At? (20 + length.toNat)).isSome = true
      then body.slice? (24 + length.toNat) (2 * length.toNat) else none) =
      if 24 + 3 * length.toNat ≤ body.size then some (body.extract (24 + length.toNat) (24 + 3 * length.toNat))
      else none := by
    have stop : 24 + length.toNat + 2 * length.toNat = 24 + 3 * length.toNat := by omega
    simp only [Bytes.slice?, Bytes.u32At?_isSome, stop]
    split
    · rfl
    · rw [if_neg (by omega)]
  simp only [CurrentUser.read, need_bind, ofBody, name, h₀, h₄, h₈, h₁₂, h₁₄, h₁₆, h₁₇, h₁₈, h₂₀, unicode,
    Option.getD_some]
  rfl

/-- The fixed fields end at offset 20, and the name behind them has the length they give. -/
theorem fault_reading_eq_none_iff (header : RecordHeader) (body : Bytes) (depth : Nat) :
    (reading header body depth).fault = none ↔ 20 + ((body.u16At? 12).getD 0).toNat ≤ body.size := by
  have read_eq : (reading header body depth).fault = none ↔ ∃ u, read header body = .ok u := by
    rw [reading]
    cases read header body <;> simp
  rw [read_eq]
  constructor
  · rintro ⟨u, h⟩
    simp only [CurrentUser.read, need_bind] at h
    -- each missing field is a fault, so none of them is missing
    have present : ∃ n name, body.u16At? 12 = some n ∧ body.slice? 20 n.toNat = some name := by
      repeat' split at h
      all_goals cases h
      all_goals exact ⟨_, _, ‹body.u16At? 12 = some _›, ‹body.slice? 20 _ = some _›⟩
    obtain ⟨n, name, found, sliced⟩ := present
    simp only [Bytes.slice?, Option.ite_none_right_eq_some] at sliced
    rw [found, Option.getD_some]
    exact sliced.1
  · exact fun h => ⟨_, read_of_long header h⟩

end CurrentUser

namespace AtomReading

open Atom RecordType

theorem fault_readText (depth : Nat) (body : Bytes) (text : Option String) :
    (readText depth body text).fault = none := by
  cases text <;> rfl

/-- An atom is read to its end iff its body is long enough for its type. -/
theorem fault_ofBody_eq_none_iff (header : RecordHeader) (body : Bytes) (depth : Nat) :
    (ofBody header body depth).fault = none ↔ header.type.needed body ≤ body.size := by
  have layouts := fun l => fault_readLayout_eq_none_iff header body depth l (Nat.zero_le _)
  have users := CurrentUser.fault_reading_eq_none_iff header body depth
  simp only [ofBody]
  generalize header.type = t at *
  by_cases h₁ : t = textCharsAtom
  · subst h₁
    simp [fault_readText, needed, textCharsAtom]
  by_cases h₂ : t = textBytesAtom
  · subst h₂
    simp [fault_readText, needed, textCharsAtom, textBytesAtom]
  by_cases h₃ : t = cString
  · subst h₃
    simp [needed, textCharsAtom, textBytesAtom, cString]
  by_cases h₄ : t = currentUserAtom
  · subst h₄
    simpa [needed, textCharsAtom, textBytesAtom, cString, currentUserAtom] using users
  rw [if_neg h₁, if_neg h₂, if_neg h₃, if_neg h₄]
  by_cases h₅ : t = textHeaderAtom
  · subst h₅
    exact layouts _
  by_cases h₆ : t = slidePersistAtom
  · subst h₆
    exact layouts _
  by_cases h₇ : t = documentAtom
  · subst h₇
    exact layouts _
  by_cases h₈ : t = userEditAtom
  · subst h₈
    exact layouts _
  -- no other type has a layout or needs bytes
  have none : layout? t = .none := by rw [layout?, if_neg h₅, if_neg h₆, if_neg h₇, if_neg h₈]
  have zero : t.needed body = 0 :=
    (if_neg h₅).trans ((if_neg h₆).trans ((if_neg h₇).trans ((if_neg h₈).trans (if_neg h₄))))
  rw [none, zero]
  simp

/-- Only text atoms give text. -/
theorem text_ofBody (header : RecordHeader) (body : Bytes) (depth : Nat) :
    (ofBody header body depth).text = header.type.textOf body := by
  have given (text : Option String) : (readText depth body text).text = text.map (· ++ "\n") := by
    cases text <;> rfl
  simp only [ofBody]
  generalize header.type = t
  by_cases h₁ : t = textCharsAtom
  · rw [if_pos h₁, given]
    exact (if_pos h₁).symm
  by_cases h₂ : t = textBytesAtom
  · rw [if_neg h₁, if_pos h₂, given]
    exact ((if_neg h₁).trans (if_pos h₂)).symm
  have no_text : t.textOf body = none := (if_neg h₁).trans (if_neg h₂)
  rw [if_neg h₁, if_neg h₂, no_text]
  split
  · rfl
  split
  · rw [CurrentUser.reading]
    split <;> rfl
  split
  · exact text_readLayout header body depth 0 _
  · rfl

/-- An atom that gives text shows one line, with the words that it gives in front of a line feed. -/
theorem lines_of_text {header : RecordHeader} {body : Bytes} {depth : Nat} {t : String}
    (h : (ofBody header body depth).text = some t) :
    ∃ words, t = words ++ "\n" ∧ (ofBody header body depth).lines = [labelled depth "text" (quoted words)] := by
  have shown (text : Option String) (given : (readText depth body text).text = some t) :
      ∃ words, t = words ++ "\n" ∧ (readText depth body text).lines = [labelled depth "text" (quoted words)] := by
    cases text with
    | none => cases given
    | some words => exact ⟨words, (Option.some.inj given).symm, rfl⟩
  have gives := text_ofBody header body depth
  rw [h, textOf] at gives
  simp only [ofBody] at h ⊢
  split at gives
  · next chars =>
    simp only [if_pos (show header.type = textCharsAtom from chars)] at h ⊢
    exact shown _ h
  split at gives
  · next chars bytes =>
    simp only [if_neg (show ¬ header.type = textCharsAtom from chars),
      if_pos (show header.type = textBytesAtom from bytes)] at h ⊢
    exact shown _ h
  · cases gives

end AtomReading

end DeckDump
