import DeckDump.Record.CurrentUser

/-!
# Record streams

Records one behind the other; a container's body is again such a sequence. Each record shows a
line for its header and then its body: a container its records, an atom its fields. The bounds
of a level are offsets in the whole stream.

* `read_empty`: a stream without bytes holds no records
-/

namespace DeckDump

namespace RecordStream

/-- Shows what an atom says, keeps its text, and fails where it is cut short. -/
def showAtom (a : AtomReading) : Report Unit := do
  Report.lines a.lines
  if let some text := a.text then Report.keepText text
  if let some fault := a.fault then throw (.record fault)

/-- Notes and shows the header of a record at `offset` that lies inside `depth` others. -/
def showHeader (logged : Bool) (header : RecordHeader) (offset depth : Nat) : Report Unit := do
  if logged then Report.note (.recordHeader header.type offset depth header.length)
  Report.line (Text.fill (2 * depth) ' ' ++ header.line offset)

/-- Reads the records from `start` to `stop` that lie inside `depth` others; `logged` notes each header. -/
def readLevel (logged : Bool) (bytes : Bytes) (start stop depth : Nat) : Report Unit :=
  if maxDepth < depth then throw (.record (.tooDeep start))
  else if start < stop then
    if stop - start < RecordHeader.size then throw (.record (.trailingBytes (stop - start) start))
    else
      match RecordHeader.readAt? bytes start with
      | none => throw (.record (.unreadableHeader start))
      | some header =>
        let body := start + RecordHeader.size
        let next := body + header.length.toNat
        if next ≤ stop then do
          showHeader logged header start depth
          if header.isContainer then readLevel logged bytes body next (depth + 1)
          else showAtom (AtomReading.ofBody header (bytes.extract body next) (depth + 1))
          readLevel logged bytes next stop depth
        else throw (.record (.overrun header.type start header.length (stop - body)))
  else pure ()
termination_by stop - start
decreasing_by
  all_goals
    have : body = start + 8 := rfl
    omega

/-- Reads all records of a stream. -/
def read (logged : Bool) (bytes : Bytes) : Report Unit := readLevel logged bytes 0 bytes.size 0

theorem read_empty (logged : Bool) (s : Session) : read logged #[] s = (.ok (), s) := by
  simp [read, readLevel, maxDepth]

end RecordStream

end DeckDump
