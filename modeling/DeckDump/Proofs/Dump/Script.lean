import DeckDump.Proofs.Dump.Follows
import DeckDump.Proofs.PropertySet.Script
import DeckDump.Proofs.Record.Listing

/-!
# The script of a dump

With the decoders of a presentation, a walk is decided by what its lookups answer: `answers` asks
for the entries in the order of the walk, and then the walk follows a script of those answers.

* `visitSteps`, `visitReport`: what visiting an answered entry does, and what it reports;
* `visitAll_follows`: a walk follows the visits of its answers;
* `run_follows`: a dump follows its three summaries and then the walk (`dumpScript`).
-/

namespace DeckDump.Dump

open Visit (Follows)

variable {ω : Type}

/-- A name that was looked up, and the answer. -/
abbrev Answer := String × Except Error Entry

/-- The answers to the lookups of a walk over `names`, and the surroundings behind them: the names
that are passed over are not looked up, and nothing is looked up behind the first failure. -/
def answers (c : Container ω) : List String → ω → List Answer × ω
  | [], w => ([], w)
  | name :: rest, w =>
    if EntryKind.classify name = .skipped then answers c rest w
    else
      match c.lookup name w with
      | (.error e, w') => ([(name, .error e)], w')
      | (.ok entry, w') => ((name, .ok entry) :: (answers c rest w').1, (answers c rest w').2)

/-- The answers depend on the lookups alone. -/
theorem answers_congr {c c' : Container ω} (h : c.lookup = c'.lookup) (names : List String) (w : ω) :
    answers c names w = answers c' names w := by
  induction names generalizing w with
  | nil => rfl
  | cons name rest ih => simp only [answers, h, ih]

/-- What decoding an entry does. -/
def decodeSteps (debug : Bool) (kind : EntryKind) (entry : Entry) : List Step :=
  match kind with
  | .presentation | .currentUser => ((RecordStream.list entry.bytes).script debug).steps
  | .summary => (PropertySet.script entry.bytes).steps
  | .skipped | .raw => Step.lines (HexDump.lines entry.bytes (some rawBlock))

/-- How decoding an entry ends. -/
def decodeOutcome (kind : EntryKind) (entry : Entry) : EntryOutcome :=
  match kind with
  | .presentation | .currentUser => Follows.settled .degraded (RecordFault.ending (RecordStream.list entry.bytes).fault)
  | .summary => Follows.settled .tolerated (PropertySet.script entry.bytes).result
  | .skipped | .raw => .decoded

/-- What an outcome is noted as. -/
def outcomeEvents (name : String) : EntryOutcome → List Event
  | .degraded reason => [.recordsFailed name reason]
  | .tolerated reason => [.propertySetFailed name reason]
  | .decoded | .aborted _ => []

/-- What visiting an entry does. -/
def visitSteps (debug : Bool) : Answer → List Step
  | (name, .error e) => [.note (.lookupFailed name e)]
  | (name, .ok entry) =>
    Step.lines (Report.titleLines (banner entry)) ++ decodeSteps debug (EntryKind.classify name) entry ++
      (outcomeEvents name (decodeOutcome (EntryKind.classify name) entry)).map Step.note

/-- What is reported of an entry. -/
def visitReport : Answer → EntryReport
  | (name, .error e) => ⟨name, EntryKind.classify name, 0, .aborted e.message⟩
  | (name, .ok entry) =>
    ⟨name, EntryKind.classify name, entry.bytes.size, decodeOutcome (EntryKind.classify name) entry⟩

/-- The outcome of a walk, without its text. -/
def walkOutcome (as : List Answer) (o : DumpOutcome) : DumpOutcome := as.foldl (fun o a => o.record (visitReport a)) o

/-- What a walk does. -/
def walkSteps (debug : Bool) (as : List Answer) : List Step := as.flatMap (visitSteps debug)

theorem walkSteps_cons (debug : Bool) (a : Answer) (as : List Answer) :
    walkSteps debug (a :: as) = visitSteps debug a ++ walkSteps debug as := rfl

/-- A whole dump whose summaries take the steps `shown`. -/
def dumpScript (shown : List Step) (debug : Bool) (as : List Answer) : Script DumpOutcome :=
  let o := walkOutcome as {}
  ⟨shown ++ .forget :: walkSteps debug as ++ [.note (.walked o.entries.size o.overallSuccess o.aborted.isSome)],
    .ok { o with text := textAfter {} (walkSteps debug as) }⟩

theorem outcomeEvents_follow (name : String) (o : EntryOutcome) (muted : Bool) (w : ω) :
    Follows (Attempt.within (noteOutcome name o)) muted w
      (Script.ofSteps ((outcomeEvents name o).map Step.note)) w := by
  have script : (Script.ofSteps ((outcomeEvents name o).map Step.note)).run = noteOutcome name o := by
    cases o with
    | decoded | aborted => rfl
    | degraded | tolerated => exact Script.run_note _
  exact .within script.symm

/-- Handing an entry to its decoder, whatever is logged of it. -/
theorem decode_follows (config : Config) (kind : EntryKind) (entry : Entry) (muted : Bool) (w : ω) :
    Follows (decode (decoders config) kind entry) muted w
      ⟨decodeSteps config.debug kind entry, .ok (decodeOutcome kind entry)⟩ w := by
  have records : Follows (settle .degraded ((decoders config).records entry)) muted w
      ⟨((RecordStream.list entry.bytes).script config.debug).steps,
        .ok (Follows.settled .degraded (RecordFault.ending (RecordStream.list entry.bytes).fault))⟩ w := by
    refine .settle .degraded (x := (RecordStream.list entry.bytes).script config.debug) ?_ fun e failed => ?_
    · exact .within (RecordStream.read_eq config.debug entry.bytes)
    · simp only [Listing.script, RecordFault.ending] at failed
      split at failed <;> cases failed
      rfl
  have propertySet : Follows (settle .tolerated ((decoders config).propertySet entry)) muted w
      ⟨(PropertySet.script entry.bytes).steps,
        .ok (Follows.settled .tolerated (PropertySet.script entry.bytes).result)⟩ w := by
    refine .settle .tolerated ?_ fun e failed => ?_
    · exact .within (PropertySet.run_script entry.bytes).symm
    · obtain ⟨fault, rfl⟩ := (PropertySet.proper_script entry.bytes).fails e failed
      rfl
  have raw : Follows (do (decoders config).raw entry; return EntryOutcome.decoded) muted w
      ⟨Step.lines (HexDump.lines entry.bytes (some rawBlock)), .ok EntryOutcome.decoded⟩ w := by
    have dumped : Follows ((decoders config).raw entry) muted w
        (Script.lines (HexDump.lines entry.bytes (some rawBlock))) w := .within (Script.run_lines _).symm
    exact dumped.bind rfl (.pure EntryOutcome.decoded) (by simp [Script.lines, Script.ofSteps, Pure.pure])
  cases kind with
  | presentation | currentUser => exact records
  | summary => exact propertySet
  | skipped | raw => exact raw

/-- An entry that was found is never aborted. -/
theorem decodeOutcome_ne_aborted (kind : EntryKind) (entry : Entry) (reason : String) :
    decodeOutcome kind entry ≠ .aborted reason := by
  have settled (onFault : String → EntryOutcome) (r : Except Error Unit) (h : ∀ m, onFault m ≠ .aborted reason) :
      Follows.settled onFault r ≠ .aborted reason := by
    cases r with
    | ok => simp [Follows.settled]
    | error e => exact h _
  cases kind with
  | presentation | currentUser => exact settled _ _ (by simp)
  | summary => exact settled _ _ (by simp)
  | skipped | raw => simp [decodeOutcome]

theorem visitEntry_follows (c : Container ω) (config : Config) (name : String) (muted : Bool) (w : ω) :
    Follows (visitEntry c (decoders config) name) muted w
      ⟨visitSteps config.debug (name, (c.lookup name w).1), .ok (visitReport (name, (c.lookup name w).1))⟩
      (c.lookup name w).2 := by
  have found : Follows (Attempt.beside (c.lookup name)) muted w (Pure.pure (c.lookup name w).1) (c.lookup name w).2 :=
    .beside _
  refine found.bind rfl (y := ⟨visitSteps config.debug (name, (c.lookup name w).1), _⟩) ?_ rfl
  rcases c.lookup name w with ⟨e | entry, w'⟩
  · exact Follows.bind (.note (.lookupFailed name e)) rfl (.pure (visitReport (name, .error e))) rfl
  · have titled : Follows (Attempt.within (Report.section (banner entry))) muted w'
        (Script.lines (Report.titleLines (banner entry))) w' := .within (Script.run_section _).symm
    have decoded := decode_follows config (EntryKind.classify name) entry muted w'
    have noted := outcomeEvents_follow name (decodeOutcome (EntryKind.classify name) entry) muted w'
    refine titled.bind rfl (y := ⟨decodeSteps config.debug (EntryKind.classify name) entry ++
      (outcomeEvents name (decodeOutcome (EntryKind.classify name) entry)).map Step.note,
        .ok (visitReport (name, .ok entry))⟩) ?_ ?_
    · refine decoded.bind rfl (y := ⟨_, .ok (visitReport (name, .ok entry))⟩) ?_ rfl
      exact noted.bind rfl (.pure _) (by simp [Script.ofSteps, Pure.pure]; rfl)
    · simp [visitSteps, Script.lines, Script.ofSteps]

/-- A walk follows the visits of its answers. -/
theorem visitAll_follows (c : Container ω) (config : Config) (names : List String) (o : DumpOutcome) (muted : Bool)
    (w : ω) :
    Follows (visitAll c (decoders config) names o) muted w
      ⟨walkSteps config.debug (answers c names w).1, .ok (walkOutcome (answers c names w).1 o)⟩
      (answers c names w).2 := by
  induction names generalizing o w with
  | nil => exact .pure o
  | cons name rest ih =>
    rw [visitAll, answers]
    by_cases skipped : EntryKind.classify name = .skipped
    · rw [if_pos skipped, if_pos skipped]
      exact ih o w
    rw [if_neg skipped, if_neg skipped]
    have visited := visitEntry_follows c config name muted w
    rcases looked : c.lookup name w with ⟨e | entry, w'⟩ <;> rw [looked] at visited
    · -- the walk ends with the first failed lookup
      refine visited.bind rfl (y := Pure.pure (o.record (visitReport (name, .error e)))) (.pure _) ?_
      simp [walkSteps, walkOutcome, Pure.pure]
    · have walked := ih (o.record (visitReport (name, .ok entry))) w'
      refine visited.bind rfl (y := ⟨walkSteps config.debug (answers c rest w').1,
        .ok (walkOutcome (answers c rest w').1 (o.record (visitReport (name, .ok entry))))⟩) ?_ ?_
      · cases outcome : (visitReport (name, .ok entry)).outcome with
        | aborted reason => exact absurd outcome (decodeOutcome_ne_aborted _ _ _)
        | decoded | degraded | tolerated => exact walked
      · simp [walkSteps, walkOutcome]

/-- A dump up to its last step, which reads the text that was kept. -/
def runUntold (c : Container ω) (ds : Decoders ω) : Visit ω DumpOutcome := do
  Attempt.within c.showSummary
  Attempt.within c.showHeader
  Attempt.within c.showDirectory
  Attempt.within Report.clearText
  let o ← visitAll c ds c.names {}
  Attempt.within (Report.note (.walked o.entries.size o.overallSuccess o.aborted.isSome))
  return o

theorem run_eq (c : Container ω) (ds : Decoders ω) :
    run c ds = do
      let o ← runUntold c ds
      let text ← Attempt.within Report.keptText
      return { o with text } := by
  simp only [run, runUntold, bind_assoc, pure_bind]

/-- A dump takes the steps of its summaries and then those of the walk. -/
theorem run_follows (c : Container ω) (config : Config) (muted : Bool) (w : ω) {summary header directory : List Step}
    (h₁ : ∀ s, s.sink.muted = muted → c.showSummary s = play summary s)
    (h₂ : ∀ s, s.sink.muted = muted → c.showHeader s = play header s)
    (h₃ : ∀ s, s.sink.muted = muted → c.showDirectory s = play directory s) :
    Follows (run c (decoders config)) muted w
      (dumpScript (summary ++ header ++ directory) config.debug (answers c c.names w).1) (answers c c.names w).2 := by
  have shown {r : Report Unit} {xs : List Step} (h : ∀ s, s.sink.muted = muted → r s = play xs s) :
      Follows (Attempt.within r) muted w (Script.ofSteps xs) w :=
    .within_of_muted fun s switch => by rw [h s switch, Script.run_ofSteps]
  have forgotten : Follows (Attempt.within Report.clearText) muted w (Script.ofSteps [.forget]) w :=
    .within (by rw [Script.run_ofSteps]; exact (bind_pure _).symm)
  have walked := visitAll_follows c config c.names {} muted w
  generalize answers c c.names w = as at *
  obtain ⟨as, w'⟩ := as
  let o := walkOutcome as {}
  let told : Event := .walked o.entries.size o.overallSuccess o.aborted.isSome
  let walk := walkSteps config.debug as
  have untold : Follows (runUntold c (decoders config)) muted w
      ⟨(dumpScript (summary ++ header ++ directory) config.debug as).steps, .ok o⟩ w' := by
    refine (shown h₁).bind rfl (y := ⟨header ++ (directory ++ .forget :: (walk ++ [.note told])), .ok o⟩) ?_ ?_
    · refine (shown h₂).bind rfl (y := ⟨directory ++ .forget :: (walk ++ [.note told]), .ok o⟩) ?_ rfl
      refine (shown h₃).bind rfl (y := ⟨.forget :: (walk ++ [.note told]), .ok o⟩) ?_ rfl
      refine forgotten.bind rfl (y := ⟨walk ++ [.note told], .ok o⟩) ?_ rfl
      refine walked.bind rfl (y := ⟨[.note told], .ok o⟩) ?_ rfl
      exact Follows.bind (.note told) rfl (.pure o) rfl
    · simp [dumpScript, Script.ofSteps, walk, told, o]
  have known (t : ExtractedText) :
      textAfter t (dumpScript (summary ++ header ++ directory) config.debug as).steps = textAfter {} walk := by
    simp [dumpScript, textAfter, Step.keptAfter, walk]
  rw [run_eq]
  exact untold.keptText rfl known fun o text => { o with text }

end DeckDump.Dump
