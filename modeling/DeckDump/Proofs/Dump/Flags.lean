import DeckDump.Proofs.Compound.Sections
import DeckDump.Proofs.Dump.Text

/-!
# What the flags change

Two configurations dump a document alike, up to what they show. The steps of an entry are the same
with and without the log of record headers, but for the events of those headers:

* `visitOutput`, `recordsOf`: what is shown of an entry, and the records among it;
* `output_walkSteps`, `text_walkSteps`: the output and the text do not depend on the log;
* `headers_steps`, `headers_walkSteps`: the log has one event for each record shown, or none;
* `others_steps`, `others_walkSteps`: all other events are noted either way;
* `loadWith_eq`: opening a document only stores whether its sector chains are shown;
* `dumpWith_eq`: what the dump of a document shows, notes and ends with;
* `flags_only_show`: two runs with two configurations, whatever reader opens the document.
-/

namespace DeckDump

/-- Whether an event is the one that a logged reading notes of a record's header. -/
def Event.isRecordHeader : Event → Bool
  | recordHeader .. => true
  | _ => false

namespace Dump

/-- The records shown for an answer. -/
def recordsOf : Answer → List Seen
  | (_, .error _) => []
  | (name, .ok entry) =>
    match EntryKind.classify name with
    | .presentation | .currentUser => (RecordStream.list entry.bytes).seen
    | .summary | .skipped | .raw => []

/-- What is shown for an answer. -/
def visitOutput : Answer → ByteArray
  | (_, .error _) => .empty
  | (name, .ok entry) =>
    shownLines (Report.titleLines (banner entry)) ++
      match EntryKind.classify name with
      | .presentation | .currentUser => shownLines ((RecordStream.list entry.bytes).seen.flatMap Seen.lines)
      | .summary => outputOf (PropertySet.script entry.bytes).steps
      | .skipped | .raw => shownLines (HexDump.lines entry.bytes (some rawBlock))

/-- What is shown for answers, one behind the other. -/
def walkOutput (as : List Answer) : ByteArray := as.foldr (fun a behind => visitOutput a ++ behind) .empty

theorem output_notes (es : List Event) : outputOf (es.map Step.note) = .empty := by
  induction es with
  | nil => rfl
  | cons e es ih => exact (congrArg _ ih).trans ByteArray.append_empty

theorem noted_notes (es : List Event) : notedBy (es.map Step.note) = es := by
  induction es with
  | nil => rfl
  | cons e es ih => exact congrArg (e :: ·) ih

theorem textAfter_notes (t : ExtractedText) (es : List Event) : textAfter t (es.map Step.note) = t := by
  induction es with
  | nil => rfl
  | cons e es ih => exact ih

theorem output_visitSteps (debug : Bool) (a : Answer) : outputOf (visitSteps debug a) = visitOutput a := by
  obtain ⟨name, e | entry⟩ := a
  · exact ByteArray.append_empty
  · rw [visitSteps, outputOf_append, outputOf_append, output_lines, output_notes, ByteArray.append_empty, visitOutput]
    cases EntryKind.classify name with
    | presentation | currentUser => simp only [decodeSteps, Listing.script, Seen.output_steps]
    | summary => rfl
    | skipped | raw => simp only [decodeSteps, output_lines]

theorem output_walkSteps (debug : Bool) (as : List Answer) : outputOf (walkSteps debug as) = walkOutput as := by
  induction as with
  | nil => rfl
  | cons a as ih =>
    rw [walkSteps_cons, outputOf_append, output_visitSteps, ih]
    rfl

theorem text_visitSteps (debug : Bool) (t : ExtractedText) (a : Answer) :
    textAfter t (visitSteps debug a) = textAfter t (visitSteps false a) := by
  obtain ⟨name, e | entry⟩ := a
  · rfl
  · simp only [visitSteps, textAfter_append, textAfter_lines, textAfter_notes]
    cases EntryKind.classify name with
    | presentation | currentUser =>
      have same (t₁ t₂ : ExtractedText) (h : t₁.fragments.toList = t₂.fragments.toList) : t₁ = t₂ := by
        cases t₁
        cases t₂
        exact congrArg _ (Array.toList_inj.1 h)
      refine same _ _ ?_
      simp only [decodeSteps, Listing.script, Seen.textAfter_steps]
    | summary | skipped | raw => rfl

theorem text_walkSteps (debug : Bool) (t : ExtractedText) (as : List Answer) :
    textAfter t (walkSteps debug as) = textAfter t (walkSteps false as) := by
  induction as generalizing t with
  | nil => rfl
  | cons a as ih =>
    rw [walkSteps_cons, walkSteps_cons, textAfter_append, textAfter_append, text_visitSteps, ih]

theorem noted_visitSteps (debug : Bool) (name : String) (entry : Entry) :
    notedBy (visitSteps debug (name, .ok entry)) =
      notedBy (decodeSteps debug (EntryKind.classify name) entry) ++
        outcomeEvents name (decodeOutcome (EntryKind.classify name) entry) := by
  rw [visitSteps, notedBy_append, notedBy_append, noted_lines, noted_notes, List.nil_append]

/-- A reading notes an event for each record header, or none. -/
theorem headers_steps (debug : Bool) (rs : List Seen) :
    (notedBy (rs.flatMap (Seen.steps debug))).filter Event.isRecordHeader =
      if debug then rs.map Seen.event else [] := by
  have one (r : Seen) : ((if debug then [r.event] else []) ++ r.textEvents).filter Event.isRecordHeader =
      if debug then [r.event] else [] := by
    rw [Seen.textEvents]
    cases debug <;> cases r.body.text <;> rfl
  rw [Seen.noted_steps, List.filter_flatMap]
  simp only [one]
  cases debug with
  | true => exact List.map_eq_flatMap.symm
  | false => simp

/-- All other events of a reading are those of the text it keeps. -/
theorem others_steps (debug : Bool) (rs : List Seen) :
    (notedBy (rs.flatMap (Seen.steps debug))).filter (fun e => ! e.isRecordHeader) =
      (rs.flatMap Seen.textEvents).filter fun e => ! e.isRecordHeader := by
  have one (r : Seen) : ((if debug then [r.event] else []) ++ r.textEvents).filter (fun e => ! e.isRecordHeader) =
      r.textEvents.filter fun e => ! e.isRecordHeader := by
    cases debug <;> simp [Seen.event, Event.isRecordHeader]
  rw [Seen.noted_steps, List.filter_flatMap, List.filter_flatMap]
  simp only [one]

/-- The events of record headers that visiting an entry notes: those of the records shown, if at all. -/
theorem headers_visitSteps (debug : Bool) (a : Answer) :
    (notedBy (visitSteps debug a)).filter Event.isRecordHeader =
      if debug then (recordsOf a).map Seen.event else [] := by
  obtain ⟨name, e | entry⟩ := a
  · cases debug <;> rfl
  · have outcome (o : EntryOutcome) : (outcomeEvents name o).filter Event.isRecordHeader = [] := by cases o <;> rfl
    rw [noted_visitSteps, List.filter_append, outcome, List.append_nil, recordsOf]
    cases EntryKind.classify name with
    | presentation | currentUser => exact headers_steps debug _
    | summary =>
      have none : (notedBy (PropertySet.script entry.bytes).steps).filter Event.isRecordHeader = [] := by
        refine List.filter_eq_nil_iff.2 fun e he => ?_
        obtain ⟨_, rfl⟩ | ⟨_, _, rfl⟩ := (PropertySet.proper_script entry.bytes).noted e he <;>
          simp [Event.isRecordHeader]
      simp [decodeSteps, none]
    | skipped | raw => simp [decodeSteps, noted_lines]

/-- All other events that visiting an entry notes. -/
theorem others_visitSteps (debug : Bool) (a : Answer) :
    (notedBy (visitSteps debug a)).filter (fun e => ! e.isRecordHeader) =
      (notedBy (visitSteps false a)).filter (fun e => ! e.isRecordHeader) := by
  obtain ⟨name, e | entry⟩ := a
  · rfl
  · rw [noted_visitSteps, noted_visitSteps, List.filter_append, List.filter_append]
    cases EntryKind.classify name with
    | presentation | currentUser => simp only [decodeSteps, Listing.script, others_steps]
    | summary | skipped | raw => rfl

theorem headers_walkSteps (debug : Bool) (as : List Answer) :
    (notedBy (walkSteps debug as)).filter Event.isRecordHeader =
      if debug then (as.flatMap recordsOf).map Seen.event else [] := by
  induction as with
  | nil => cases debug <;> rfl
  | cons a as ih =>
    rw [walkSteps_cons, notedBy_append, List.filter_append, headers_visitSteps, ih]
    cases debug with
    | true => simp only [if_pos, List.flatMap_cons, List.map_append]
    | false => rfl

theorem others_walkSteps (debug : Bool) (as : List Answer) :
    (notedBy (walkSteps debug as)).filter (fun e => ! e.isRecordHeader) =
      (notedBy (walkSteps false as)).filter (fun e => ! e.isRecordHeader) := by
  induction as with
  | nil => rfl
  | cons a as ih =>
    rw [walkSteps_cons, walkSteps_cons, notedBy_append, notedBy_append, List.filter_append, List.filter_append,
      others_visitSteps, ih]

end Dump

namespace Compound.Document

/-- Opening a document only stores whether its sector chains are shown. -/
theorem loadWith_eq (openReader : Opener) (data : Bytes) (config : Config) :
    loadWith openReader data config =
      (fun d => { d with showsChains := config.showSectorChain }) <$> loadWith openReader data {} := by
  rw [loadWith, loadWith]
  cases Header.parse data with
  | error fault => rfl
  | ok header =>
    simp only [map_bind]
    refine bind_congr fun table => bind_congr fun stored => ?_
    cases openReader data with
    | error reason => rfl
    | ok reader => simp only [map_bind, map_pure]

/-- The dump of an opened document on a sink that never fails and is muted as the configuration says. -/
def dumpWith (d : Document) (config : Config) (log : Log) : Except Error DumpOutcome × Session × Unit :=
  Dump.run d.container (Dump.decoders config) ({ sink := { muted := config.noStructOutput }, log }, ())

/-- What a dump of `d` with a configuration leaves behind, when the log held `log`: the outcome `o`, and in
the log the events `others` besides those of record headers. The flags decide what else there is. -/
structure Leaves (d : Document) (config : Config) (log : Log) (o : DumpOutcome) (others : List Event)
    (dumped : Except Error DumpOutcome × Session × Unit) : Prop where
  outcome : dumped.1 = .ok o
  /-- Nothing is shown when muted, and the sector chains right behind the header if they are asked for. -/
  output : dumped.2.1.sink.written =
    if config.noStructOutput then .empty
    else shownLines (d.summarySection ++ d.headerSection) ++
      (if config.showSectorChain then shownLines d.chainsSection else .empty) ++
      (shownLines d.directorySection ++ Dump.walkOutput d.answers)
  /-- One event is noted for each record shown, if records are logged. -/
  log : ∃ noted, dumped.2.1.log.toList = log.toList ++ noted ∧
    noted.filter (fun e => ! e.isRecordHeader) = others ∧
    noted.filter Event.isRecordHeader =
      if config.debug then (d.answers.flatMap Dump.recordsOf).map Seen.event else []
  /-- The text is written if it is asked for. -/
  emitted : (Dump.emitText o config {}).1 = .ok () ∧
    (Dump.emitText o config {}).2.sink.written =
      if config.dumpText then (o.text.normalized ++ "\n").toUTF8 else .empty

/-- The outcome of a document's dump. -/
def outcome (d : Document) : DumpOutcome :=
  { Dump.walkOutcome d.answers {} with text := textAfter {} (Dump.walkSteps false d.answers) }

theorem emitText_eq (o : DumpOutcome) (config : Config) :
    (Dump.emitText o config {}).1 = .ok () ∧
      (Dump.emitText o config {}).2.sink.written =
        if config.dumpText then (o.text.normalized ++ "\n").toUTF8 else .empty := by
  rw [Dump.emitText_apply o config rfl]
  refine ⟨rfl, ?_⟩
  cases config.dumpText <;> simp [Session.putting]

theorem output_dumpScript (sections : List String) (debug : Bool) (as : List Dump.Answer) :
    outputOf (Dump.dumpScript (Step.lines sections) debug as).steps = shownLines sections ++ Dump.walkOutput as := by
  simp only [Dump.dumpScript, List.append_assoc, List.cons_append, outputOf_append, outputOf, Step.output, output_lines,
    Dump.output_walkSteps, ByteArray.append_empty, ByteArray.empty_append]

theorem noted_dumpScript (sections : List String) (debug : Bool) (as : List Dump.Answer) :
    notedBy (Dump.dumpScript (Step.lines sections) debug as).steps =
      notedBy (Dump.walkSteps debug as) ++
        [.walked (Dump.walkOutcome as {}).entries.size (Dump.walkOutcome as {}).overallSuccess
          (Dump.walkOutcome as {}).aborted.isSome] := by
  rw [Dump.dumpScript, List.append_assoc, notedBy_append, noted_lines, List.nil_append]
  exact notedBy_append (.forget :: Dump.walkSteps debug as) _

theorem answers_showing (d : Document) (showsChains : Bool) : { d with showsChains }.answers = d.answers := by
  have lookups : ({ d with showsChains } : Document).container.lookup = d.container.lookup := rfl
  exact congrArg Prod.fst (Dump.answers_congr lookups d.names ())

theorem outcome_showing (d : Document) (showsChains : Bool) :
    ({ d with showsChains } : Document).outcome = d.outcome := by
  rw [outcome, answers_showing, outcome]

theorem shown_sections (d : Document) (showsChains : Bool) :
    shownLines ({ d with showsChains } : Document).sections =
      shownLines (d.summarySection ++ d.headerSection) ++
        (if showsChains then shownLines d.chainsSection else .empty) ++ shownLines d.directorySection := by
  have same : ({ d with showsChains } : Document).sections =
      d.summarySection ++ d.headerSection ++ (if showsChains then d.chainsSection else []) ++ d.directorySection := by
    rw [sections, ← List.append_assoc]
    rfl
  rw [same, shownLines_append, shownLines_append _ (if showsChains then _ else _)]
  cases showsChains <;> rfl

/-- What a dump shows of a document. -/
def shown (d : Document) : ByteArray := shownLines d.sections ++ Dump.walkOutput d.answers

/-- What a dump notes of a document. -/
def noted (d : Document) (debug : Bool) : List Event :=
  notedBy (Dump.walkSteps debug d.answers) ++
    [.walked (Dump.walkOutcome d.answers {}).entries.size (Dump.walkOutcome d.answers {}).overallSuccess
      (Dump.walkOutcome d.answers {}).aborted.isSome]

/-- A dump ends with the outcome of the document, and shows the document unless it is muted. -/
theorem dumpWith_eq (d : Document) (config : Config) (log : Log) :
    d.dumpWith config log =
      (.ok d.outcome,
        ⟨{ written := if config.noStructOutput then .empty else d.shown, muted := config.noStructOutput },
          log ++ d.noted config.debug, d.outcome.text⟩, ()) := by
  let script := Dump.dumpScript (Step.lines d.sections) config.debug d.answers
  let start : Session := { sink := { muted := config.noStructOutput }, log }
  have dumped : d.dumpWith config log = (script.result, (start.after script.steps, ())) :=
    (d.dump_follows config config.noStructOutput).of_neverFails (s := start) (.inr rfl)
  have result : script.result = .ok d.outcome := by
    simp only [script, Dump.dumpScript, Dump.text_walkSteps config.debug]
    rfl
  have output : outputOf script.steps = d.shown := output_dumpScript _ _ _
  have events : notedBy script.steps = d.noted config.debug := noted_dumpScript _ _ _
  have text : textAfter {} script.steps = d.outcome.text := by
    have walked : textAfter {} script.steps = textAfter {} (Dump.walkSteps config.debug d.answers) := by
      simp [script, Dump.dumpScript, textAfter, Step.keptAfter]
    exact walked.trans (Dump.text_walkSteps config.debug {} d.answers)
  rw [dumped, result, Session.after, output, events, text]
  simp only [start, Sink.shows, ByteArray.empty_append]

/-- What the dumps of a document leave behind does not depend on the flags. -/
theorem exists_leaves (d : Document) (log : Log) :
    ∃ others, ∀ config : Config, d.Leaves config log d.outcome others
      ({ d with showsChains := config.showSectorChain }.dumpWith config log) := by
  refine ⟨(d.noted false).filter fun e => ! e.isRecordHeader, fun config => ?_⟩
  let opened : Document := { d with showsChains := config.showSectorChain }
  have same : opened.answers = d.answers := d.answers_showing _
  have last (e : Event) (h : e.isRecordHeader = false) : [e].filter Event.isRecordHeader = [] := by simp [h]
  rw [dumpWith_eq]
  refine ⟨?_, ?_, ⟨opened.noted config.debug, Array.toList_appendList, ?_, ?_⟩, emitText_eq _ _⟩
  · exact congrArg Except.ok (d.outcome_showing _)
  · simp only [shown, shown_sections, answers_showing, ByteArray.append_assoc]
  · rw [noted, noted, List.filter_append, List.filter_append, same, Dump.others_walkSteps]
  · rw [noted, List.filter_append, same, Dump.headers_walkSteps, last _ rfl, List.append_nil]

/-- What is left behind does not tell whether the document was opened to show its sector chains. -/
theorem Leaves.showing {d : Document} {config : Config} {log : Log} {o : DumpOutcome} {others : List Event}
    {dumped : Except Error DumpOutcome × Session × Unit} (h : d.Leaves config log o others dumped)
    (showsChains : Bool) : ({ d with showsChains } : Document).Leaves config log o others dumped where
  outcome := h.outcome
  output := by rw [answers_showing]; exact h.output
  log := by rw [answers_showing]; exact h.log
  emitted := h.emitted

/-- The events of levels WARN and ERROR, in order. -/
def severe (log : Log) : List Event := log.toList.filter fun e => Level.warn.includes e.level

theorem severe_of_leaves {d : Document} {config : Config} {log : Log} {o : DumpOutcome} {others : List Event}
    {dumped : Except Error DumpOutcome × Session × Unit} (h : d.Leaves config log o others dumped) :
    severe dumped.2.1.log = severe log ++ others.filter fun e => Level.warn.includes e.level := by
  -- the events of record headers are of a lower level
  have kept (e : Event) : (Level.warn.includes e.level && ! e.isRecordHeader) = Level.warn.includes e.level := by
    cases e <;> rfl
  obtain ⟨noted, all, rfl, -⟩ := h.log
  rw [severe, all, List.filter_append, List.filter_filter]
  simp only [kept, severe]

/-- The flags only change what is shown: whatever reader opens a document, opening it ends the same way with every
configuration, and its dumps leave the same behind, but for what the flags ask for. -/
theorem flags_only_show (openReader : Opener) (data : Bytes) (log : Log) (k₁ k₂ : Config) :
    match (loadWith openReader data k₁ : Logged Document) log, (loadWith openReader data k₂ : Logged Document) log with
    | (.error e₁, log₁), (.error e₂, log₂) => e₁ = e₂ ∧ log₁ = log₂
    | (.ok d₁, log₁), (.ok d₂, log₂) =>
      log₁ = log₂ ∧ severe (d₁.dumpWith k₁ log₁).2.1.log = severe (d₂.dumpWith k₂ log₂).2.1.log ∧
        ∃ o others, d₁.Leaves k₁ log₁ o others (d₁.dumpWith k₁ log₁) ∧
          d₁.Leaves k₂ log₁ o others (d₂.dumpWith k₂ log₂)
    | _, _ => False := by
  rw [loadWith_eq openReader data k₁, loadWith_eq openReader data k₂]
  simp only [map_eq_pure_bind, Attempt.bind_apply]
  rcases (loadWith openReader data {} : Logged Document) log with ⟨e | d, log'⟩
  · exact ⟨rfl, rfl⟩
  · obtain ⟨others, leaves⟩ := d.exists_leaves log'
    have first := (leaves k₁).showing k₁.showSectorChain
    have second := (leaves k₂).showing k₁.showSectorChain
    exact ⟨rfl, (severe_of_leaves first).trans (severe_of_leaves second).symm, d.outcome, others, first, second⟩

end Compound.Document

end DeckDump
