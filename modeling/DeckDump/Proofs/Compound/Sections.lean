import DeckDump.Compound.Document
import DeckDump.Proofs.Dump.Script

/-!
# The sections of a document

The summaries of a compound document are sections of lines that the document decides
(`showSummary_eq`, `showHeader_eq`, `showDirectory_eq`), so its whole dump follows one script for each
configuration (`dump_follows`).
-/

namespace DeckDump

theorem Step.lines_append (ls ms : List String) : Step.lines (ls ++ ms) = Step.lines ls ++ Step.lines ms := by
  simp [Step.lines]

theorem Report.lines_eq_play (ls : List String) : Report.lines ls = play (Step.lines ls) := by
  rw [← Script.run_lines, Script.lines, Script.run_ofSteps]

namespace Compound.Document

/-- The section above all others: the sizes of the file and of what it holds. -/
def summarySection (d : Document) : List String := Report.titleLines "Compound Document" ++ d.summaryLines

/-- The section of the header. -/
def headerSection (d : Document) : List String := Report.titleLines "Compound Document Header" ++ d.header.fieldLines

/-- The section of the sector chains. -/
def chainsSection (d : Document) : List String :=
  Report.titleLines "Sector Chains" ++
    match d.table with
    | some table => table.chainLines d.header
    | none => ["(unavailable)"]

/-- The section of the directory. -/
def directorySection (d : Document) : List String :=
  Report.titleLines "Directory" ++ d.entries.toList.map ListedEntry.listingLine

/-- All sections in front of the entries. -/
def sections (d : Document) : List String :=
  d.summarySection ++ (d.headerSection ++ if d.showsChains then d.chainsSection else []) ++ d.directorySection

theorem showSummary_eq (d : Document) : d.showSummary = Report.lines d.summarySection :=
  (Report.lines_append _ _).symm

theorem showHeader_eq (d : Document) :
    d.showHeader = Report.lines (d.headerSection ++ if d.showsChains then d.chainsSection else []) := by
  have chains : d.showChains = Report.lines d.chainsSection := by
    rw [showChains, chainsSection, Report.lines_append]
    cases d.table with
    | some table => rfl
    | none =>
      have single : Report.lines ["(unavailable)"] = Report.line "(unavailable)" := bind_pure _
      simp only [single]
      rfl
  rw [showHeader, Report.lines_append, headerSection, Report.lines_append, Header.show, chains]
  cases d.showsChains <;> rfl

theorem showDirectory_eq (d : Document) : d.showDirectory = Report.lines d.directorySection :=
  (Report.lines_append _ _).symm

/-- What the lookups of the document's dump answer. -/
def answers (d : Document) : List Dump.Answer := (Dump.answers d.container d.names ()).1

/-- The dump of a document takes the steps of its sections and then those of its entries. -/
theorem dump_follows (d : Document) (config : Config) (muted : Bool) :
    Visit.Follows (Dump.run d.container (Dump.decoders config)) muted ()
      (Dump.dumpScript (Step.lines d.sections) config.debug d.answers) () := by
  rw [sections, Step.lines_append, Step.lines_append]
  refine Dump.run_follows d.container config muted () (fun s _ => ?_) (fun s _ => ?_) fun s _ => ?_
  · rw [← Report.lines_eq_play, ← showSummary_eq]
    rfl
  · rw [← Report.lines_eq_play, ← showHeader_eq]
    rfl
  · rw [← Report.lines_eq_play, ← showDirectory_eq]
    rfl

end Compound.Document

end DeckDump
