import DeckDump.Text.Escape

/-!
# Text without terminal commands

A terminal acts on some characters instead of showing them: an escape sequence may colour what
follows, rename the window or swallow text up to its own end. Here they are taken out, and so is
every control character but the tab, the line feed, the form feed and the carriage return.

The commands are those of a DEC terminal: after an escape come a short sequence, a control
sequence, a device control string, an operating system command or a string of no meaning. None of
them has to end, and then the rest of the text goes with it.

* `mem_plain`: nothing else is left
* `plain_of_shown`: text without commands is left as it is
* `plain_plain`: so one pass takes out everything
-/

namespace DeckDump.Terminal

/-- What the characters read so far have begun. -/
inductive Mode
  | text
  | escape
  | shortSequence
  | controlSequence
  | deviceEntry
  | deviceParameter
  | deviceIntermediate
  | systemCommand
  | string
  deriving DecidableEq, Repr

/-- Whether a control character is obeyed at once in this mode, as it is between commands. -/
def Mode.obeysControls : Mode → Bool
  | text | escape | shortSequence | controlSequence => true
  | _ => false

/-- Whether the character is a control character that lays text out. -/
def isSpacing (c : Char) : Bool := c = '\t' || c = '\n' || c = '\x0C' || c = '\r'

/-- Whether the character is part of a text that has no commands. -/
def isShown (c : Char) : Bool := isSpacing c || !Text.isControl c

/-- Whether the character is one of those between `first` and `last`. -/
def isBetween (first last c : Char) : Bool := first ≤ c && c ≤ last

/-- Whether the character ends a string: one of its bytes is the eight-bit string terminator. -/
def endsString (c : Char) : Bool := (String.utf8EncodeChar c).contains 0x9C

/-- The mode after a character that is not shown. -/
def Mode.next (m : Mode) (c : Char) : Mode :=
  if c = '\x18' ∨ c = '\x1A' then text
  else if c = '\x1B' then escape
  else
    match m with
    | text => text
    | escape =>
      if isBetween ' ' '/' c then shortSequence
      else if c = '[' then controlSequence
      else if c = ']' then systemCommand
      else if c = 'P' then deviceEntry
      else if c = 'X' ∨ c = '^' ∨ c = '_' then string
      else if isBetween '0' '~' c then text
      else escape
    | shortSequence => if isBetween '0' '~' c then text else shortSequence
    | controlSequence => if isBetween '@' '~' c then text else controlSequence
    | deviceEntry =>
      if isBetween ' ' '/' c then deviceIntermediate
      else if isBetween '0' '?' c then deviceParameter
      else if isBetween '@' '~' c then string
      else deviceEntry
    | deviceParameter =>
      if isBetween ' ' '/' c then deviceIntermediate
      else if isBetween '<' '~' c then string
      else deviceParameter
    | deviceIntermediate => if isBetween '0' '~' c then string else deviceIntermediate
    | systemCommand => if c = '\x07' then text else systemCommand
    | string => if endsString c then text else string

/-- How far a text is read: the mode, and whether the character before was shown. -/
structure Scan where
  mode : Mode := .text
  showing : Bool := false
  deriving DecidableEq, Repr

/-- Whether the next character is shown. A line feed inside a command is, and so is what follows
it, up to the next character that is never shown. -/
def Scan.shows (s : Scan) (c : Char) : Bool :=
  if s.showing || s.mode = .text then isShown c else s.mode.obeysControls && isSpacing c

/-- How far the text is read after one more character. A shown character of more than one byte
ends every command. -/
def Scan.next (s : Scan) (c : Char) : Scan :=
  if s.shows c then ⟨if c.toNat < 0x80 then s.mode else .text, true⟩ else ⟨s.mode.next c, false⟩

/-- What is shown of the rest of a text. -/
def Scan.run (s : Scan) : List Char → List Char
  | [] => []
  | c :: cs => if s.shows c then c :: (s.next c).run cs else (s.next c).run cs

/-- What a terminal that obeys no command shows of a text. -/
def plain (s : String) : String := String.ofList (({} : Scan).run s.toList)

theorem isShown_of_shows {s : Scan} {c : Char} (h : s.shows c = true) : isShown c = true := by
  rw [Scan.shows] at h
  split at h
  · exact h
  · simp [isShown, (Bool.and_eq_true_iff.mp h).2]

theorem mem_run {cs : List Char} {c : Char} : ∀ {s : Scan}, c ∈ s.run cs → isShown c = true := by
  induction cs with
  | nil => intro s h; simp [Scan.run] at h
  | cons d ds ih =>
    intro s h
    rw [Scan.run] at h
    split at h
    · rename_i hd
      rcases List.mem_cons.mp h with rfl | h
      · exact isShown_of_shows hd
      · exact ih h
    · exact ih h

theorem run_of_shown {cs : List Char} (h : ∀ c ∈ cs, isShown c = true) :
    ∀ {s : Scan}, s.mode = .text → s.run cs = cs := by
  induction cs with
  | nil => intros; rfl
  | cons c cs ih =>
    intro s hs
    obtain ⟨hc, h⟩ := List.forall_mem_cons.mp h
    have hc : s.shows c = true := by simp [Scan.shows, hs, hc]
    rw [Scan.run, if_pos hc, ih h]
    simp [Scan.next, hc, hs]

theorem mem_plain {s : String} {c : Char} (h : c ∈ (plain s).toList) : isShown c = true :=
  mem_run (by simpa [plain] using h)

theorem plain_of_shown {s : String} (h : ∀ c ∈ s.toList, isShown c = true) : plain s = s := by
  rw [plain, run_of_shown h rfl, String.ofList_toList]

/-- A window title is not shown, and neither is the rest of a text in which it does not end. -/
example : plain "a\x1B]0;t\x07b\x1B]0;t\n" = "ab" := by decide +kernel

theorem plain_plain (s : String) : plain (plain s) = plain s := plain_of_shown fun _ => mem_plain

end DeckDump.Terminal
