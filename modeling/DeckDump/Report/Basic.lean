import DeckDump.Attempt
import DeckDump.Log
import DeckDump.Report.Sink
import DeckDump.Text.Extracted

/-!
# Reports

What a dump writes, notes and keeps: a report is an attempt over a session, which holds the sink,
the log and the text found. A line is written as two pieces, its text and its line feed. A muted
sink takes nothing and never fails.

* `lines_append`: lines are written one behind the other
-/

namespace DeckDump

/-- The events noted so far, in order. -/
abbrev Log := Array Event

/-- An attempt that only notes events. -/
abbrev Logged (α : Type) := Attempt Log α

/-- Notes an event. -/
def Logged.note (e : Event) : Logged Unit := ExceptT.mk fun log => (.ok (), log.push e)

/-- All that a dump changes. -/
structure Session where
  sink : Sink := {}
  log : Log := #[]
  text : ExtractedText := {}
deriving Inhabited

/-- A computation that writes, notes and keeps text. -/
abbrev Report (α : Type) := Attempt Session α

namespace Report

/-- The width of the rules around a title. -/
def ruleWidth : Nat := 68

/-- Notes an event. -/
def note (e : Event) : Report Unit :=
  ExceptT.mk fun ⟨sink, log, text⟩ => (.ok (), ⟨sink, log.push e, text⟩)

/-- Keeps a fragment of text. -/
def keepText (fragment : String) : Report Unit := do
  note (.textKept fragment.utf8ByteSize)
  ExceptT.mk fun ⟨sink, log, text⟩ => (.ok (), ⟨sink, log, text.append fragment⟩)

/-- Forgets the text kept so far. -/
def clearText : Report Unit := ExceptT.mk fun ⟨sink, log, _⟩ => (.ok (), ⟨sink, log, {}⟩)

/-- The text kept so far. -/
def keptText : Report ExtractedText := ExceptT.mk fun s => (.ok s.text, s)

/-- Writes text to the sink, muted or not. -/
def put (s : String) : Report Unit :=
  ExceptT.mk fun ⟨sink, log, text⟩ =>
    match sink.accept s.toUTF8 with
    | (true, sink) => (.ok (), ⟨sink, log, text⟩)
    | (false, sink) => (.error (.io "closed"), ⟨sink, log, text⟩)

/-- Whether the sink is muted. -/
def isMuted : Report Bool := ExceptT.mk fun s => (.ok s.sink.muted, s)

/-- Mutes the sink or ends that. -/
def setMuted (on : Bool) : Report Unit :=
  ExceptT.mk fun ⟨sink, log, text⟩ => (.ok (), ⟨{ sink with muted := on }, log, text⟩)

/-- Writes text unless the sink is muted. -/
def write (s : String) : Report Unit := do
  unless ← isMuted do put s

/-- Writes text and a line feed unless the sink is muted. -/
def line (s : String) : Report Unit := do
  unless ← isMuted do
    put s
    put "\n"

/-- Writes lines in order. -/
def lines : List String → Report Unit
  | [] => pure ()
  | s :: rest => do
    line s
    lines rest

/-- A rule made of one character. -/
def ruleText (c : Char) : String := Text.fill ruleWidth c

/-- The four lines of a section's title: an empty one, and the title between two rules. -/
def titleLines (title : String) : List String := ["", ruleText '=', title, ruleText '-']

/-- Opens a section. -/
def «section» (title : String) : Report Unit := lines (titleLines title)

/-- Hands everything written on to where the sink leads. -/
def flush : Report Unit :=
  ExceptT.mk fun s => (if s.sink.flushFails then .error (.io "flush failed") else .ok (), s)

theorem lines_append (a b : List String) : lines (a ++ b) = (do lines a; lines b) := by
  induction a with
  | nil => rfl
  | cons t a ih => simp [lines, ih]

end Report

end DeckDump
