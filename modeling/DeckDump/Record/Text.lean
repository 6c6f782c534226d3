import DeckDump.Text.Utf16
import DeckDump.Text.Windows1252

/-!
# Text in records

Text atoms hold UTF-16 or Windows-1252 text that ends at the first NUL or at the end of the
body. An empty text is no text.

* `unicode?_odd`: a body with an odd number of bytes holds no text
-/

namespace DeckDump.RecordText

/-- The text of `s`, if there is any. -/
def nonempty (cs : List Char) : Option String := if cs.isEmpty then none else some (String.ofList cs)

/-- The text of a body of little-endian code units: all of it is decoded, and what is in front of
the first NUL is kept. -/
def unicode? (body : Bytes) : Option String :=
  if body.isEmpty ∨ body.size % 2 ≠ 0 then none
  else
    nonempty (((Utf16.decode body.words16).takeWhile (· ≠ some '\x00')).map (·.getD Utf16.replacement))

/-- The text of a body of single-byte characters in front of the first zero byte. -/
def ansi? (body : Bytes) : Option String := nonempty (body.untilZero.map Windows1252.decodeByte)

theorem unicode?_odd {body : Bytes} (h : body.size % 2 ≠ 0) : unicode? body = none := by
  simp [unicode?, h]

end DeckDump.RecordText
