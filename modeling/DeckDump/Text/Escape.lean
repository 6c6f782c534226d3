import DeckDump.Text.Numeral

/-!
# Control characters made visible

Names and texts of a document are shown with each control character written as a backslash, an
`x` and two hexadecimal digits, so that they stay on one line.

* `escapeControls_of_visible`: text without control characters is shown as it is
-/

namespace DeckDump.Text

/-- Whether the character is below the space or is the delete character. -/
def isControl (c : Char) : Bool := c.toNat < 0x20 || c == '\x7F'

/-- One character, made visible. -/
def escapeControl (c : Char) : List Char :=
  if isControl c then '\\' :: 'x' :: (hex 2 c.toNat).toList else [c]

/-- Text with its control characters made visible. -/
def escapeControls (s : String) : String := String.ofList (s.toList.flatMap escapeControl)

theorem escapeControls_of_visible {s : String} (h : ∀ c ∈ s.toList, isControl c = false) :
    escapeControls s = s := by
  have : s.toList.flatMap escapeControl = s.toList := by
    generalize s.toList = cs at h
    induction cs with
    | nil => rfl
    | cons c cs ih =>
      simp only [List.mem_cons, forall_eq_or_imp] at h
      simp [escapeControl, h.1, ih h.2]
  simp [escapeControls, this]

end DeckDump.Text
