import DeckDump.Config
import DeckDump.Container
import DeckDump.Dump.Outcome
import DeckDump.PropertySet.Stream
import DeckDump.Record.Stream

/-!
# The walk

A dump shows the summaries of a document and then visits its entries in the order of the
directory. Each entry that can be looked up gets a title and is handed to one decoder. A failing
sink ends the walk; any other fault is reported with the entry.

* `settle_apply`: only output failures get past a decoder
-/

namespace DeckDump

/-- A computation over a session and the surroundings of a dump. -/
abbrev Visit (ω α : Type) := Attempt (Session × ω) α

/-- The decoders that entries are handed to, among surroundings `ω`. -/
structure Decoders (ω : Type) where
  records : Entry → Visit ω Unit
  propertySet : Entry → Visit ω Unit
  raw : Entry → Visit ω Unit

namespace Dump

variable {ω : Type}

/-- How many bytes there are between the empty lines of a raw dump. -/
def rawBlock : Nat := 512

/-- Dumps an entry in hexadecimal. -/
def showRaw (entry : Entry) : Report Unit := HexDump.write entry.bytes (some rawBlock)

/-- The decoders of a presentation. -/
def decoders (config : Config) : Decoders ω where
  records entry := Attempt.within (RecordStream.read config.debug entry.bytes)
  propertySet entry := Attempt.within (PropertySet.read entry.bytes)
  raw entry := Attempt.within (showRaw entry)

/-- The title of an entry. -/
def banner (entry : Entry) : String := s!"{Text.escapeControls entry.name} (size: {entry.bytes.size} bytes)"

/-- Runs a decoder: a fault of the document becomes an outcome, a failing sink stays an error. -/
def settle (onFault : String → EntryOutcome) (decode : Visit ω Unit) : Visit ω EntryOutcome :=
  try
    decode
    return .decoded
  catch e => if e.isOutputFailure then throw e else return onFault e.message

/-- Hands an entry to the decoder of its kind. -/
def decode (ds : Decoders ω) (kind : EntryKind) (entry : Entry) : Visit ω EntryOutcome :=
  match kind with
  | .presentation | .currentUser => settle .degraded (ds.records entry)
  | .summary => settle .tolerated (ds.propertySet entry)
  | .skipped | .raw => do
    ds.raw entry
    return .decoded

/-- Notes an outcome that is no success. -/
def noteOutcome (name : String) : EntryOutcome → Report Unit
  | .degraded reason => Report.note (.recordsFailed name reason)
  | .tolerated reason => Report.note (.propertySetFailed name reason)
  | .decoded | .aborted _ => pure ()

/-- Visits the entry called `name`: its report, and whether the walk goes on. -/
def visitEntry (c : Container ω) (ds : Decoders ω) (name : String) : Visit ω EntryReport := do
  let kind := EntryKind.classify name
  match ← Attempt.beside (c.lookup name) with
  | .error e =>
    Attempt.within (Report.note (.lookupFailed name e))
    return ⟨name, kind, 0, .aborted e.message⟩
  | .ok entry =>
    Attempt.within (Report.section (banner entry))
    let outcome ← decode ds kind entry
    Attempt.within (noteOutcome name outcome)
    return ⟨name, kind, entry.bytes.size, outcome⟩

/-- Visits entries in order, up to the first that cannot be looked up. -/
def visitAll (c : Container ω) (ds : Decoders ω) : List String → DumpOutcome → Visit ω DumpOutcome
  | [], o => pure o
  | name :: rest, o =>
    if EntryKind.classify name = .skipped then visitAll c ds rest o
    else do
      let report ← visitEntry c ds name
      match report.outcome with
      | .aborted _ => return o.record report
      | .decoded | .degraded _ | .tolerated _ => visitAll c ds rest (o.record report)

/-- Dumps a document. An error means that the output failed; faults of the document are in the outcome. -/
def run (c : Container ω) (ds : Decoders ω) : Visit ω DumpOutcome := do
  Attempt.within c.showSummary
  Attempt.within c.showHeader
  Attempt.within c.showDirectory
  Attempt.within Report.clearText
  let o ← visitAll c ds c.names {}
  Attempt.within (Report.note (.walked o.entries.size o.overallSuccess o.aborted.isSome))
  let text ← Attempt.within Report.keptText
  return { o with text }

/-- Writes the text that was found, where it is asked for. A muted sink takes it too. -/
def emitText (o : DumpOutcome) (config : Config) : Report Unit := do
  if config.dumpText then
    Report.put o.text.normalized
    Report.put "\n"

theorem settle_apply (onFault : String → EntryOutcome) (decode : Visit ω Unit) (s : Session × ω) :
    settle onFault decode s = match decode s with
      | (.ok _, s') => (.ok .decoded, s')
      | (.error e, s') => if e.isOutputFailure then (.error e, s') else (.ok (onFault e.message), s') := by
  simp only [settle, Attempt.tryCatch_apply, Attempt.bind_apply]
  rcases decode s with ⟨e | _, s'⟩
  · cases failure : e.isOutputFailure <;> simp only [failure, if_true, Bool.false_eq_true, if_false] <;> rfl
  · rfl

end Dump

end DeckDump
