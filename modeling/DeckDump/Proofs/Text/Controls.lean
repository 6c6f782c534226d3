import DeckDump.Guid
import DeckDump.Text.Escape
import DeckDump.Text.WhiteSpace

/-!
# Control characters in a text

A line feed inside a name would end the line that shows it, and other control characters would make
a terminal act. `controls` picks them out of a text, and what is put together from texts has the
controls of its parts:

* `controls_append`, `controls_join`, `controls_intercalate`, `controls_padLeft`, `controls_padRight`:
  ways of putting texts together;
* `controls_decimal`, `controls_hex`, `Guid.controls_text`: numerals and identifiers have none;
* `controls_escapeControls`: nor has any text that was escaped, whatever it was;
* `controls_trimEnd`, `controls_toLower`: trimming adds none, and neither do small letters.
-/

namespace DeckDump.Text

/-- The control characters of a text, in order. -/
def controls (s : String) : List Char := s.toList.filter isControl

theorem controls_eq_nil_iff (s : String) : controls s = [] ↔ ∀ c ∈ s.toList, isControl c = false := by
  simp [controls]

theorem controls_ofList {cs : List Char} (h : (cs.all fun c => !isControl c) = true) :
    controls (String.ofList cs) = [] := by
  rw [controls_eq_nil_iff, String.toList_ofList]
  exact fun c mem => by simpa using List.all_eq_true.1 h c mem

/-! ## Putting texts together -/

/-- A text in a text is shown as it is. -/
@[simp]
theorem controls_toString (s : String) : controls (toString s) = controls s := rfl

@[simp]
theorem controls_append (s t : String) : controls (s ++ t) = controls s ++ controls t := by
  simp [controls]

@[simp]
theorem controls_join (ss : List String) : controls (String.join ss) = ss.flatMap controls := by
  induction ss with
  | nil => rfl
  | cons s ss ih => simp [ih]

/-- Quotation marks add none. -/
theorem controls_quoted (s : String) : controls ("\"" ++ s ++ "\"") = controls s := by
  have quote : controls "\"" = [] := rfl
  rw [controls_append, controls_append, quote, List.nil_append, List.append_nil]

theorem controls_intercalate {separator : String} {ss : List String} (plain : controls separator = [])
    (h : ∀ s ∈ ss, controls s = []) : controls (String.intercalate separator ss) = [] := by
  induction ss with
  | nil => rfl
  | cons s ss ih =>
    rw [List.forall_mem_cons] at h
    cases ss with
    | nil => rw [String.intercalate_singleton]; exact h.1
    | cons t ss => rw [String.intercalate_cons_cons, controls_append, controls_append, h.1, plain, ih h.2]; rfl

theorem controls_padLeft {width : Nat} {c : Char} {s : String} (shown : isControl c = false) :
    controls (padLeft width c s) = controls s := by
  simp [controls, padLeft, List.leftpad, shown]

theorem controls_padRight {width : Nat} {c : Char} {s : String} (shown : isControl c = false) :
    controls (padRight width c s) = controls s := by
  simp [controls, padRight, List.rightpad, shown]

@[simp]
theorem controls_padLeft_blank (width : Nat) (s : String) : controls (padLeft width ' ' s) = controls s :=
  controls_padLeft rfl

@[simp]
theorem controls_padRight_blank (width : Nat) (s : String) : controls (padRight width ' ' s) = controls s :=
  controls_padRight rfl

theorem controls_fill {count : Nat} {c : Char} (shown : isControl c = false) : controls (fill count c) = [] := by
  simp [controls, fill, shown]

theorem controls_getD {names : List String} {other : String} (listed : ∀ name ∈ names, controls name = [])
    (unlisted : controls other = []) (i : Nat) : controls (names.getD i other) = [] := by
  rw [List.getD_eq_getElem?_getD]
  cases found : names[i]? with
  | none => exact unlisted
  | some name => exact listed name (List.mem_of_getElem? found)

/-! ## Numerals -/

/-- The characters of a numeral are the digits of its base. -/
theorem exists_digitChar_of_mem {b n : Nat} (base : 1 < b) {c : Char} (h : c ∈ Nat.toDigits b n) :
    ∃ d < b, Nat.digitChar d = c := by
  induction n using Nat.strongRecOn with
  | ind n ih =>
    rw [Nat.toDigits_eq_if base] at h
    split at h
    · next small => exact ⟨n, small, (List.mem_singleton.1 h).symm⟩
    · next large =>
      rcases List.mem_append.1 h with front | last
      · exact ih (n / b) (Nat.div_lt_self (by omega) base) front
      · exact ⟨n % b, Nat.mod_lt n (by omega), (List.mem_singleton.1 last).symm⟩

/-- No digit is a control character, in either case. -/
theorem isControl_digitChar {d : Nat} (h : d < 16) :
    isControl (Nat.digitChar d) = false ∧ isControl (Nat.digitChar d).toUpper = false := by
  have all : ∀ d ∈ List.range 16,
      isControl (Nat.digitChar d) = false ∧ isControl (Nat.digitChar d).toUpper = false := by decide
  exact all d (List.mem_range.2 h)

@[simp]
theorem controls_decimal (n : Nat) : controls (decimal n) = [] := by
  rw [controls_eq_nil_iff, decimal, String.toList_ofList]
  intro c mem
  obtain ⟨d, small, rfl⟩ := exists_digitChar_of_mem (show 1 < 10 by decide) mem
  exact (isControl_digitChar (by omega)).1

/-- A number in a text is shown by its decimal digits. -/
@[simp]
theorem controls_repr (n : Nat) : controls n.repr = [] := by
  rw [Nat.repr_eq_ofList_toDigits]
  exact controls_decimal n

@[simp]
theorem controls_signedDecimal (n : Int) : controls (signedDecimal n) = [] := by
  rw [signedDecimal]
  split <;> simp +decide

@[simp]
theorem controls_hex (width n : Nat) : controls (hex width n) = [] := by
  rw [hex, controls_padLeft rfl, controls_eq_nil_iff, String.toList_ofList]
  intro c mem
  obtain ⟨digit, lower, rfl⟩ := List.mem_map.1 mem
  obtain ⟨d, small, rfl⟩ := exists_digitChar_of_mem (show 1 < 16 by decide) lower
  exact (isControl_digitChar small).2

@[simp]
theorem controls_hexByte (b : UInt8) : controls (hexByte b) = [] := controls_hex 2 b.toNat

/-! ## Text of a document -/

/-- Escaped text has no control character. -/
@[simp]
theorem controls_escapeControls (s : String) : controls (escapeControls s) = [] := by
  rw [controls_eq_nil_iff, escapeControls, String.toList_ofList]
  intro c mem
  obtain ⟨source, -, mem⟩ := List.mem_flatMap.1 mem
  rw [escapeControl] at mem
  split at mem
  · have digits := (controls_eq_nil_iff _).1 (controls_hex 2 source.toNat)
    rcases List.mem_cons.1 mem with rfl | mem
    · rfl
    rcases List.mem_cons.1 mem with rfl | mem
    · rfl
    exact digits c mem
  · next visible =>
    rw [List.mem_singleton.1 mem]
    simpa using visible

theorem controls_trimEnd {s : String} (h : controls s = []) : controls (trimEnd s) = [] := by
  rw [controls_eq_nil_iff] at h ⊢
  exact fun c mem => h c (mem_trimEnd mem)

theorem isControl_toLower {c : Char} (shown : isControl c = false) : isControl c.toLower = false := by
  delta Char.toLower
  split
  case isTrue capital =>
    have first : 65 ≤ c.val.toNat := capital.1
    have last : c.val.toNat ≤ 90 := capital.2
    have small : (c.val + ('a'.val - 'A'.val)).toNat = c.val.toNat + 32 := by
      rw [UInt32.toNat_add]
      exact Nat.mod_eq_of_lt (Nat.lt_of_le_of_lt (Nat.add_le_add_right last 32) (by decide))
    simp only [isControl, Char.toNat, small, Bool.or_eq_false_iff, decide_eq_false_iff_not, beq_eq_false_iff_ne]
    refine ⟨by omega, fun delete => ?_⟩
    have value := congrArg (fun c : Char => c.val.toNat) delete
    have code : '\x7F'.val.toNat = 127 := rfl
    dsimp only at value
    omega
  case isFalse => exact shown

theorem controls_toLower {s : String} (h : controls s = []) : controls (s.map Char.toLower) = [] := by
  rw [controls_eq_nil_iff] at h ⊢
  rw [String.toList_map, List.forall_mem_map]
  exact fun c mem => isControl_toLower (h c mem)

end DeckDump.Text

namespace DeckDump.Guid

@[simp]
theorem controls_text (g : Guid) : Text.controls g.text = [] := by
  have group (is : List (Fin 16)) : Text.controls (g.group is) = [] := by simp [Guid.group]
  refine Text.controls_intercalate rfl fun s mem => ?_
  simp only [List.mem_cons, List.not_mem_nil, or_false] at mem
  rcases mem with rfl | rfl | rfl | rfl | rfl <;> exact group _

end DeckDump.Guid
