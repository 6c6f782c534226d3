import DeckDump.Proofs.CommandLine.Wording
import DeckDump.Proofs.Compound.Opening
import DeckDump.Proofs.Compound.StoredEntry
import DeckDump.Proofs.Dump.Flags
import DeckDump.Proofs.Dump.Verdict

/-!
# How a run exits

What a run of the program prints, logs and exits with, for every command line that names an input and
whatever that input holds:

* `Event.saysFailure_iff`: only a failed verdict is logged as one;
* `succeeded_outcome`: a verdict is a success iff no entry did harm;
* `dumpDocument_apply`: what the dump of an opened document leaves behind;
* `Finished.GaveUp`, `Finished.Dumped`: the two ways in which a run ends;
* `dumpFile_unreadable`, `dumpFile_unopened`, `dumpFile_opened`: which of them it is;
* `exitCode_dumpFile`, `exitCode_dumpFile_eq_zero_iff`: the file alone decides how a run exits;
* `run_exits`: what this means for a whole run;
* `read_deck`, `opened_deck`: a document with one empty stream, byte by byte.
-/

namespace DeckDump

/-- Whether an event says, at level ERROR, that the verdict is a failure. -/
def Event.SaysFailure (e : Event) : Prop := e.level = .error ∧ e.message = "FAILURE"

/-- Only the event that a failed verdict notes says so; the other errors are worded otherwise. -/
theorem Event.saysFailure_iff (e : Event) : e.SaysFailure ↔ e = .failure := by
  have worded (front back : String) (second : front.toList[1]? = some 'a') : front ++ back ≠ "FAILURE" := by
    intro same
    have inside : 1 < front.toList.length := (List.getElem?_eq_some_iff.1 second).1
    have letter := congrArg (fun s => s.toList[1]?) same
    simp only [String.toList_append, List.getElem?_append_left inside, second] at letter
    exact absurd letter (by decide)
  constructor
  · rintro ⟨level, message⟩
    cases e with
    | failure => rfl
    | lookupFailed name error =>
      have same : "Failed to look up '" ++ Text.escapeControls name ++ "': " ++ error.message = "FAILURE" := message
      rw [String.append_assoc, String.append_assoc] at same
      exact absurd same (worded _ _ (by decide))
    | recordsFailed name reason =>
      have same : "Failed to decode '" ++ Text.escapeControls name ++ "': " ++ reason = "FAILURE" := message
      rw [String.append_assoc, String.append_assoc] at same
      exact absurd same (worded _ _ (by decide))
    | _ => cases level
  · rintro rfl
    exact ⟨rfl, rfl⟩

namespace Dump

/-- No entry is noted as the failure of a verdict. -/
theorem failure_not_mem_visitSteps (debug : Bool) (a : Answer) : Event.failure ∉ notedBy (visitSteps debug a) := by
  obtain ⟨name, e | entry⟩ := a
  · simp [visitSteps, notedBy, Step.noted]
  have outcome : Event.failure ∉ outcomeEvents name (decodeOutcome (EntryKind.classify name) entry) := by
    cases decodeOutcome (EntryKind.classify name) entry <;> simp [outcomeEvents]
  rw [noted_visitSteps, List.mem_append, not_or]
  refine ⟨?_, outcome⟩
  cases EntryKind.classify name with
  | presentation | currentUser =>
    simp only [decodeSteps, Listing.script, Seen.noted_steps, List.mem_flatMap, not_exists, not_and]
    intro r _
    rw [Seen.textEvents]
    cases debug <;> cases r.body.text <;> simp [Seen.event]
  | summary =>
    intro mem
    obtain ⟨_, h⟩ | ⟨_, _, h⟩ := (PropertySet.proper_script entry.bytes).noted _ mem <;> cases h
  | skipped | raw =>
    rw [decodeSteps, noted_lines]
    exact List.not_mem_nil

theorem failure_not_mem_walkSteps (debug : Bool) (as : List Answer) :
    Event.failure ∉ notedBy (walkSteps debug as) := by
  induction as with
  | nil => exact List.not_mem_nil
  | cons a as ih =>
    rw [walkSteps_cons, notedBy_append, List.mem_append, not_or]
    exact ⟨failure_not_mem_visitSteps debug a, ih⟩

/-- A walk succeeds iff none of its entries does harm. -/
theorem succeeded_walkOutcome (as : List Answer) (o : DumpOutcome) :
    (walkOutcome as o).succeeded = true ↔
      o.succeeded = true ∧ ∀ r ∈ as.map visitReport, r.outcome.Harmless := by
  induction as generalizing o with
  | nil => simp [walkOutcome]
  | cons a as ih =>
    have first : (o.record (visitReport a)).succeeded = true ↔
        o.succeeded = true ∧ (visitReport a).outcome.Harmless := by
      rw [DumpOutcome.succeeded_record, Bool.and_eq_true]
      cases (visitReport a).outcome <;> simp [EntryOutcome.Harmless]
    rw [List.map_cons, List.forall_mem_cons, ← and_assoc, ← first]
    exact ih _

end Dump

namespace Compound.Document

/-- A dump does not say that the verdict is a failure. -/
theorem failure_not_mem_noted (d : Document) (debug : Bool) : .failure ∉ d.noted debug := by
  rw [noted, List.mem_append, not_or]
  exact ⟨Dump.failure_not_mem_walkSteps _ _, by simp⟩

/-- All reports of a successful verdict are harmless. -/
theorem succeeded_outcome (d : Document) :
    d.outcome.succeeded = true ↔ ∀ r ∈ d.outcome.entries.toList, r.outcome.Harmless := by
  have entries : d.outcome.entries.toList = d.answers.map Dump.visitReport := Dump.entries_walkOutcome d.answers {}
  rw [entries]
  exact (Dump.succeeded_walkOutcome d.answers {}).trans (and_iff_right rfl)

end Compound.Document

namespace CommandLine

open Compound (Document)

/-- The text that is written of an outcome. -/
def textOutput (o : DumpOutcome) (dumpText : Bool) : ByteArray :=
  if dumpText then (o.text.normalized ++ "\n").toUTF8 else .empty

/-- What a verdict is logged as: nothing, or its failure. -/
def verdictEvents (o : DumpOutcome) : List Event := if o.succeeded then [] else [.failure]

/-- What the dump of an opened document leaves behind. -/
theorem dumpDocument_apply (d : Document) (config : Config) (log : Log) :
    dumpDocument d config ({ log }, ()) =
      (.ok d.outcome,
        ⟨{ written := (if config.noStructOutput then .empty else d.shown) ++ textOutput d.outcome config.dumpText,
            muted := config.noStructOutput },
          log ++ d.noted config.debug, d.outcome.text⟩, ()) := by
  let shown : ByteArray := if config.noStructOutput then .empty else d.shown
  let left (written : ByteArray) : Session :=
    ⟨{ written, muted := config.noStructOutput }, log ++ d.noted config.debug, d.outcome.text⟩
  have muted : Report.setMuted config.noStructOutput { log } =
      (.ok (), { sink := { muted := config.noStructOutput }, log }) := rfl
  have dumped : Dump.run d.container (Dump.decoders config) ({ sink := { muted := config.noStructOutput }, log }, ()) =
      (.ok d.outcome, left shown, ()) := d.dumpWith_eq config log
  have flushed (written : ByteArray) : Report.flush (left written) = (.ok (), left written) := rfl
  have emitted : Dump.emitText d.outcome config (left shown) =
      (.ok (), left (shown ++ textOutput d.outcome config.dumpText)) := by
    rw [Dump.emitText_apply d.outcome config rfl]
    cases on : config.dumpText <;> simp [Session.putting, textOutput, left]
  simp only [dumpDocument, Attempt.bind_apply, Attempt.within, ExceptT.mk, muted, dumped, flushed, emitted,
    Attempt.pure_apply]
  rfl

/-- A run that gave up: nothing is shown, and the error stream ends with what was being done and why it failed. -/
structure Finished.GaveUp (f : Finished) (libs : Libraries) (level : Level) (doing cause : String) : Prop where
  exitCode : f.exitCode = 1
  output : f.output = .empty
  errors : f.errors = libs.logText level f.log.toList ++ "Error: " ++
    (doing ++ "\n\nCaused by:\n    " ++ indented cause) ++ "\n"
  log : ∀ e ∈ f.log.toList, ¬ e.SaysFailure

/-- A run that dumped a document with outcome `o`, of which `shown` is the whole dump. A failed verdict is
logged last, and nothing in front of it says that there is one. -/
structure Finished.Dumped (f : Finished) (libs : Libraries) (a : Args) (shown : ByteArray) (o : DumpOutcome) :
    Prop where
  exitCode : f.exitCode = if o.succeeded then 0 else 1
  output : f.output = (if a.noStructOutput then .empty else shown) ++ textOutput o a.dumpText
  log : ∃ front, f.log.toList = front ++ verdictEvents o ∧ (∀ e ∈ front, ¬ e.SaysFailure) ∧
    if o.succeeded then f.errors = libs.logText a.level front
    else ∃ head, f.errors = libs.logText a.level front ++ head ++ "FAILURE" ++ "\n"

theorem silent_of_not_mem {events : List Event} (h : .failure ∉ events) : ∀ e ∈ events, ¬ e.SaysFailure := by
  intro e mem worded
  rw [e.saysFailure_iff.1 worded] at mem
  exact h mem

theorem failure_not_mem_startLog (a : Args) (dropped : List Argument) : .failure ∉ startLog a dropped := by
  simp [startLog]

namespace Libraries

variable {libs : Libraries}

theorem gaveUp_giveUp (documented : libs.Documented) (level : Level) {log : Log} (silent : .failure ∉ log.toList)
    (doing cause : String) : (libs.giveUp level log .empty [doing, cause]).GaveUp libs level doing cause where
  exitCode := rfl
  output := rfl
  errors := by rw [← documented.reported]; rfl
  log := silent_of_not_mem silent

theorem dumped_judge (documented : libs.Documented) (a : Args) {log : Log} (silent : .failure ∉ log.toList)
    (shown : ByteArray) (o : DumpOutcome) :
    (libs.judge a.level log ((if a.noStructOutput then .empty else shown) ++ textOutput o a.dumpText) o).Dumped
      libs a shown o where
  exitCode := rfl
  output := rfl
  log := by
    refine ⟨log.toList, ?_, silent_of_not_mem silent, ?_⟩
    · rw [judge, verdictEvents]
      cases o.succeeded with
      | true => exact (List.append_nil _).symm
      | false => exact Array.toList_push
    · rw [judge]
      cases o.succeeded with
      | true => rfl
      | false =>
        have shows : a.level.includes Event.failure.level = true := by
          rw [Args.level]
          cases a.debug <;> rfl
        obtain ⟨head, line⟩ := documented.logged a.level log.toList .failure shows (by decide +kernel)
        refine ⟨head, ?_⟩
        rw [← Array.toList_push] at line
        exact line

theorem dumpFile_unreadable (documented : libs.Documented) (a : Args) (dropped : List Argument) (reason : String) :
    (libs.dumpFile a dropped (.error reason)).GaveUp libs a.level s!"Failed to read {a.input.display}" reason :=
  gaveUp_giveUp documented a.level (failure_not_mem_startLog a dropped) _ reason

theorem dumpFile_unopened (documented : libs.Documented) (a : Args) (dropped : List Argument) {data : Bytes}
    {e : Error} (refused : Document.opened libs.openReader data a.config = .error e) :
    (libs.dumpFile a dropped (.ok data)).GaveUp libs a.level s!"Failed to open {a.input.display}" e.message := by
  obtain ⟨noted, clean, loaded⟩ := Document.loadWith_apply libs.openReader data a.config
  rw [refused] at loaded
  have causes : e.causes = [e.message] := by
    rw [Error.causes, Document.inside_of_opened refused]
    rfl
  have finished : libs.dumpFile a dropped (.ok data) = libs.giveUp a.level ((startLog a dropped).toArray ++ noted)
      .empty [s!"Failed to open {a.input.display}", e.message] := by
    simp only [dumpFile, loaded, causes]
  rw [finished]
  exact gaveUp_giveUp documented a.level (by simp [clean, failure_not_mem_startLog]) _ e.message

/-- The document is opened and dumped, whatever the flags hide of it. -/
theorem dumpFile_opened (documented : libs.Documented) (a : Args) (dropped : List Argument) {data : Bytes}
    {d : Document} (found : Document.opened libs.openReader data a.config = .ok d) :
    (libs.dumpFile a dropped (.ok data)).Dumped libs a d.shown d.outcome := by
  obtain ⟨noted, clean, loaded⟩ := Document.loadWith_apply libs.openReader data a.config
  rw [found] at loaded
  let log : Log := (startLog a dropped).toArray ++ noted ++ d.noted a.debug
  have silent : .failure ∉ log.toList := by simp [log, clean, d.failure_not_mem_noted, failure_not_mem_startLog]
  have finished : libs.dumpFile a dropped (.ok data) = libs.judge a.level log
      ((if a.noStructOutput then .empty else d.shown) ++ textOutput d.outcome a.dumpText) d.outcome := by
    simp only [dumpFile, loaded, dumpDocument_apply]
    rfl
  rw [finished]
  exact dumped_judge documented a silent d.shown d.outcome

/-- How a run exits does not depend on the flags. -/
theorem exitCode_dumpFile (documented : libs.Documented) (a : Args) (dropped : List Argument)
    (contents : Except String Bytes) :
    (libs.dumpFile a dropped contents).exitCode =
      match contents with
      | .error _ => 1
      | .ok data =>
        match Document.opened libs.openReader data {} with
        | .error _ => 1
        | .ok d => if d.outcome.succeeded then 0 else 1 := by
  cases contents with
  | error reason => rfl
  | ok data =>
    have opened := Document.opened_showing libs.openReader data a.config
    dsimp only
    cases found : Document.opened libs.openReader data {} with
    | error e =>
      rw [found] at opened
      exact (dumpFile_unopened documented a dropped opened).exitCode
    | ok d =>
      rw [found] at opened
      have exits := (dumpFile_opened documented a dropped opened).exitCode
      rwa [Document.outcome_showing] at exits

/-- A run succeeds iff its file can be read and opened and no entry of the document did harm. -/
theorem exitCode_dumpFile_eq_zero_iff (documented : libs.Documented) (a : Args) (dropped : List Argument)
    (contents : Except String Bytes) :
    (libs.dumpFile a dropped contents).exitCode = 0 ↔
      ∃ data d, contents = .ok data ∧ Document.opened libs.openReader data a.config = .ok d ∧
        ∀ r ∈ d.outcome.entries.toList, r.outcome.Harmless := by
  constructor
  · intro success
    cases contents with
    | error reason => cases success
    | ok data =>
      cases found : Document.opened libs.openReader data a.config with
      | error e =>
        rw [(dumpFile_unopened documented a dropped found).exitCode] at success
        cases success
      | ok d =>
        rw [(dumpFile_opened documented a dropped found).exitCode] at success
        refine ⟨data, d, rfl, found, d.succeeded_outcome.1 ?_⟩
        by_contra failed
        rw [if_neg failed] at success
        cases success
  · rintro ⟨data, d, rfl, found, harmless⟩
    rw [(dumpFile_opened documented a dropped found).exitCode, if_pos (d.succeeded_outcome.2 harmless)]

theorem run_of_asked {args : List Argument} {a : Args} (asked : libs.parse (filterArguments args).1 = .args a)
    (read : Argument → Except String Bytes) :
    libs.run args read = libs.dumpFile a (filterArguments args).2 (read a.input) := by
  simp only [run, asked]

/-- Whoever provides what the program takes from elsewhere, a run on one input exits with 0 iff the file can be read
and opened and the verdict is a success, and with 1 otherwise. A document that is opened is shown as the flags ask
for, with its text behind it, whatever the verdict; of any other file nothing is shown, and the reason is given. The
flags do not change how a run exits. -/
theorem run_exits (documented : libs.Documented) {args : List Argument} {a : Args}
    (asked : libs.parse (filterArguments args).1 = .args a) (read : Argument → Except String Bytes) :
    let finished := libs.run args read
    (match read a.input with
      | .error reason => finished.GaveUp libs a.level s!"Failed to read {a.input.display}" reason
      | .ok data =>
        match Document.opened libs.openReader data a.config with
        | .error e => finished.GaveUp libs a.level s!"Failed to open {a.input.display}" e.message
        | .ok d => ∃ o, (d.dumpWith a.config #[]).1 = .ok o ∧
            finished.Dumped libs a (d.dumpWith { a.config with noStructOutput := false } #[]).2.1.sink.written o) ∧
    (finished.exitCode = 0 ↔ ∃ data d o, read a.input = .ok data ∧
      Document.opened libs.openReader data a.config = .ok d ∧ (d.dumpWith a.config #[]).1 = .ok o ∧
      ∀ r ∈ o.entries.toList, r.outcome.Harmless) ∧
    (finished.exitCode = 0 ∨ finished.exitCode = 1) ∧
    ∀ (args' : List Argument) (a' : Args), libs.parse (filterArguments args').1 = .args a' → a'.input = a.input →
      (libs.run args' read).exitCode = finished.exitCode := by
  intro finished
  have ran : finished = libs.dumpFile a (filterArguments args).2 (read a.input) := run_of_asked asked read
  have exits := exitCode_dumpFile documented a (filterArguments args).2 (read a.input)
  refine ⟨?_, ?_, ?_, fun args' a' asked' same => ?_⟩
  · rw [ran]
    cases read a.input with
    | error reason => exact dumpFile_unreadable documented a _ reason
    | ok data =>
      dsimp only
      cases found : Document.opened libs.openReader data a.config with
      | error e => exact dumpFile_unopened documented a _ found
      | ok d =>
        refine ⟨d.outcome, by rw [Document.dumpWith_eq], ?_⟩
        rw [Document.dumpWith_eq]
        exact dumpFile_opened documented a _ found
  · rw [ran, exitCode_dumpFile_eq_zero_iff documented]
    constructor
    · rintro ⟨data, d, contents, found, harmless⟩
      exact ⟨data, d, d.outcome, contents, found, by rw [Document.dumpWith_eq], harmless⟩
    · rintro ⟨data, d, o, contents, found, dumped, harmless⟩
      rw [Document.dumpWith_eq] at dumped
      cases dumped
      exact ⟨data, d, contents, found, harmless⟩
  · rw [ran, exits]
    split
    · exact .inr rfl
    split
    · exact .inr rfl
    split
    · exact .inl rfl
    · exact .inr rfl
  · rw [ran, run_of_asked asked' read, same, exitCode_dumpFile documented, exits]

end Libraries

end CommandLine

/-! ## A deck without slides -/

namespace Compound

/-- The slot of an entry that has a name, a type and a child, and nothing else. -/
def deckSlot (name : String) (type : UInt8) (child : EntryId) : List UInt8 :=
  let units := (Utf16.encode name.toList).flatMap bytesOf16
  units ++ (List.replicate (64 - units.length) 0 ++ (bytesOf16 (UInt16.ofNat (units.length + 2)) ++ ([type, 1] ++
    (List.replicate 8 0xFF ++ (bytesOf32 child ++ (List.replicate 36 0 ++
      (bytesOf32 SectorId.endOfChain ++ List.replicate 8 0)))))))

/-- A header in front of a sector of the table and of one with the directory. -/
def deckHeader : Header :=
  { Header.blank with fatSectors := 1, firstDirectorySector := 1, difat := Header.blank.difat.set 0 0 (Nat.succ_pos 108) }

/-- The words of the table. -/
def deckWords : List UInt32 := [SectorId.fatMark, SectorId.endOfChain] ++ List.replicate 126 SectorId.free

/-- The slots of the directory: the root, a stream inside it and two free ones. -/
def deckSlots : List UInt8 :=
  deckSlot "Root Entry" 5 1 ++ (deckSlot "Current User" 2 EntryId.nowhere ++ List.replicate 256 0)

/-- The file. It is long, so it is not to be unfolded where terms that hold it are compared. -/
@[irreducible] def deckFile : Bytes := (deckHeader.encode ++ (deckWords.flatMap bytesOf32 ++ deckSlots)).toArray

def deckTable : SectorTable := ⟨[0], deckWords.toArray⟩

def deckEntries : Array DirectoryEntry :=
  let link := EntryId.nowhere
  #[⟨0, "Root Entry", .root, link, link, 1, Guid.nil, 0, 0, some "/"⟩,
    ⟨1, "Current User", .stream, link, link, link, Guid.nil, 0, 0, some "/Current User"⟩,
    ⟨2, "", .unused, 0, 0, 0, Guid.nil, 0, 0, none⟩, ⟨3, "", .unused, 0, 0, 0, Guid.nil, 0, 0, none⟩]

theorem parse_deck : Header.parse deckFile = .ok deckHeader := by
  rw [deckFile]
  exact Header.parse_append rfl rfl (by decide) _

theorem length_deckSlots : deckSlots.length = 512 := by decide +kernel

theorem length_deckWords : (deckWords.flatMap bytesOf32).length = 512 := by decide +kernel

theorem size_deckFile : deckFile.size = 1536 := by
  rw [deckFile, List.size_toArray, List.length_append, Header.length_encode, List.length_append, length_deckWords,
    length_deckSlots]

/-- The table and the entries stand in the two sectors behind the header. -/
theorem holdsAt_deck : deckFile.HoldsAt 512 (deckWords.flatMap bytesOf32) ∧ deckFile.HoldsAt 1024 deckSlots := by
  have file := Bytes.holdsAt_whole (deckHeader.encode ++ (deckWords.flatMap bytesOf32 ++ deckSlots))
  rw [Bytes.holdsAt_append, Bytes.holdsAt_append, Header.length_encode, length_deckWords] at file
  rw [deckFile]
  exact file.2

theorem load_deck : (SectorTable.load deckFile deckHeader #[]).1 = .ok deckTable := by
  have words : deckHeader.sectorWords deckFile 0 = deckWords := by
    have count : deckWords.length = 128 := by decide +kernel
    refine Header.sectorWords_of_holdsAt holdsAt_deck.1 ?_ ?_
    · rw [count]; decide
    · rw [size_deckFile, count]; decide
  have walk : SectorTable.difatWalk deckFile deckHeader = [] := SectorTable.difatWalk_of_zero rfl
  have first : deckHeader.difat.toList.takeWhile SectorId.isRegular = [0] := by decide +kernel
  have listed : (SectorTable.listed deckFile deckHeader).take (deckHeader.sectorCount deckFile.size) = [0] := by
    rw [SectorTable.listed, first, walk, size_deckFile]
    rfl
  have inside : [0].find? (SectorTable.beyond deckFile deckHeader) = none := by
    rw [SectorTable.find?_beyond_eq_none_iff, size_deckFile]
    decide
  rw [SectorTable.fst_load _ _ (by decide), walk, listed]
  dsimp only [List.find?_nil]
  rw [inside, List.flatMap_cons, words]
  rfl

/-- A directory whose first entry is the root's, read from the sectors of a chain. -/
theorem Directory.fst_read_of_root {data : Bytes} {header : Header} {t : SectorTable} {chain : List SectorId}
    {entries : Array DirectoryEntry} (log : Log) (chained : t.chain header.firstDirectorySector = chain)
    (whole : ∀ id ∈ chain, header.Whole data id)
    (parsed : Directory.parseEntries (chain.map (header.sectorBytes data)) header.majorVersion = entries)
    (root : entries[0]?.map (·.type) = some .root) :
    (Directory.read data header t log).1 = .ok (Directory.resolvePaths entries) := by
  subst chained parsed
  have ends := Directory.fst_read_of_whole t log whole
  dsimp only at ends
  rwa [if_pos root] at ends

theorem read_deck : (Directory.read deckFile deckHeader deckTable #[]).1 = .ok deckEntries := by
  have chain : deckTable.chain deckHeader.firstDirectorySector = [1] := by decide +kernel
  have whole : ∀ id ∈ [1], deckHeader.Whole deckFile id := by
    rw [List.forall_mem_singleton, Header.Whole, size_deckFile]
    decide
  have sector : deckHeader.sectorBytes deckFile 1 = deckSlots.toArray := by
    have stored := holdsAt_deck.2
    rw [Bytes.HoldsAt, length_deckSlots] at stored
    exact Array.toList_inj.1 stored
  have slots : Directory.parseEntries ([1].map (deckHeader.sectorBytes deckFile)) deckHeader.majorVersion =
      deckEntries.map fun e => { e with path := none } := by
    rw [List.map_singleton, sector, Directory.parseEntries, List.flatMap_singleton, Bytes.chunks]
    simp only [List.extract_toArray]
    decide +kernel
  have placed : Directory.resolvePaths (deckEntries.map fun e => { e with path := none }) = deckEntries := by
    simp +decide [Directory.resolvePaths, Directory.assignPaths, deckEntries, DirectoryEntry.links, Path.root]
  rw [Directory.fst_read_of_root #[] chain whole slots (by decide +kernel), placed]

/-- A reader that has opened the deck: the root, and in it a stream without bytes. -/
def deckReader : Reader where
  walk :=
    [⟨true, true, "Root Entry", "/", 0, Guid.nil, 0⟩, ⟨false, false, "Current User", "/Current User", 0, Guid.nil, 0⟩]
  fetch path := if path = "/Current User" then .ok #[] else .error (.cannotOpen "no such stream")

/-- The deck, opened. -/
def deckDocument (showsChains : Bool) : Document :=
  ⟨deckHeader, some deckTable, deckEntries.map ListedEntry.ofStored, 1536, showsChains, deckReader.fetch⟩

theorem opened_deck (config : Config) :
    Document.opened (fun _ => .ok deckReader) deckFile config = .ok (deckDocument config.showSectorChain) := by
  have table : Document.table? deckFile deckHeader = some deckTable := by rw [Document.table?, load_deck]; rfl
  have stored : Document.stored? deckFile deckHeader (some deckTable) = some deckEntries := by
    rw [Document.stored?, Option.bind_some, read_deck]
    rfl
  rw [Document.opened_eq, parse_deck]
  dsimp only
  rw [table, stored, size_deckFile, deckDocument]

end Compound

namespace CommandLine.Libraries

open Compound

/-- What the program comes with, but for a reader that finds the deck in every file. -/
def deckLibraries : Libraries := ⟨CommandLine.parse, fun _ => .ok deckReader, shownLog, reportText⟩

/-- The deck in one file, and an archive in another one. -/
def readDeck (input : Argument) : Except String Bytes :=
  if input = .text "slides.ppt" then .ok deckFile
  else if input = .text "slides.zip" then .ok #[0x50, 0x4B]
  else .error "No such file or directory (os error 2)"

/-- The dump of the deck comes to a success, without any text. -/
theorem outcome_deck : (deckDocument false).outcome.succeeded = true ∧
    (deckDocument false).outcome.text.normalized = "" := by
  decide +kernel

/-- The deck is dumped: without its structure only the end of its text is left. Two bytes of an archive are refused,
and so is a file that is not there, even one whose name looks like an option. -/
theorem run_exits_deck :
    let quiet : List Argument := ["ppt_dump", "--no-struct-output", "--dump-text", "slides.ppt"].map .text
    let zip : List Argument := ["ppt_dump", "slides.zip"].map .text
    let other : List Argument := ["ppt_dump", "--", "-x"].map .text
    let a : Args := ⟨.text "slides.ppt", false, false, true, true⟩
    deckLibraries.Documented ∧
    deckLibraries.parse (filterArguments quiet).1 = .args a ∧
    (deckLibraries.run quiet readDeck).exitCode = 0 ∧
    (deckLibraries.run quiet readDeck).output = "\n".toUTF8 ∧
    (deckLibraries.run (["ppt_dump", "slides.ppt"].map .text) readDeck).exitCode = 0 ∧
    (deckLibraries.run zip readDeck).GaveUp deckLibraries .warn "Failed to open slides.zip"
      "Unsupported or unrecognized file format: File too small for a compound document header (2 bytes, need 512)" ∧
    (deckLibraries.run other readDeck).GaveUp deckLibraries .warn "Failed to read -x"
      "No such file or directory (os error 2)" := by
  intro quiet zip other a
  have documented : deckLibraries.Documented := documented_of_wording rfl rfl
  have asked : deckLibraries.parse (filterArguments quiet).1 = .args a := by
    have kept : (filterArguments quiet).1 = quiet := by decide +kernel
    rw [kept]
    rfl
  obtain ⟨opens, -, -, same⟩ := run_exits documented asked readDeck
  have dumps {data : Bytes} {d : Document} (found : readDeck a.input = .ok data)
      (opened : Document.opened deckLibraries.openReader data a.config = .ok d) :
      ∃ shown, (deckLibraries.run quiet readDeck).Dumped deckLibraries a shown d.outcome := by
    rw [found] at opens
    dsimp only at opens
    rw [opened] at opens
    obtain ⟨o, dumped, finished⟩ := opens
    rw [Document.dumpWith_eq] at dumped
    obtain rfl := Except.ok.inj dumped
    exact ⟨_, finished⟩
  obtain ⟨shown, finished⟩ := dumps (d := deckDocument false) rfl (opened_deck a.config)
  have exits := finished.exitCode
  rw [outcome_deck.1, if_pos rfl] at exits
  refine ⟨documented, asked, exits, ?_, ?_, ?_, ?_⟩
  · rw [finished.output, textOutput, outcome_deck.2]
    exact ByteArray.empty_append
  · rw [same _ ⟨.text "slides.ppt", false, false, false, false⟩ rfl rfl, exits]
  · exact (@run_exits _ documented zip ⟨.text "slides.zip", false, false, false, false⟩ rfl readDeck).1
  · exact (@run_exits _ documented other ⟨.text "-x", false, false, false, false⟩ rfl readDeck).1

end CommandLine.Libraries
end DeckDump
