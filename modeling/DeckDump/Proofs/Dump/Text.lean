import DeckDump.Proofs.Dump.Policy
import DeckDump.Proofs.Kept

/-!
# The text of a dump

Where the text of a dump comes from, and what is written of it:

* `textAlone`: the text of a record stream by itself;
* `recordEntries`, `textOf`: the record streams among the answers of a walk, and their text;
* `visitAll_text`: a walk adds the text of its record streams to the text that is there;
* `outcome_run`: what a dump ends with, walk and text;
* `emitText_apply`: what is written of a text;
* `run_text`: so the text of a dump is made of its record streams, and all of it is written.
-/

namespace DeckDump

namespace RecordStream

/-- The text that reading a record stream by itself keeps, whether it can be read to its end or not. -/
def textAlone (logged : Bool) (b : Bytes) : List String := (read logged b {}).2.text.fragments.toList

/-- Reading a record stream forgets nothing. -/
theorem lasting_script (logged : Bool) (b : Bytes) : Step.forget ∉ ((list b).script logged).steps := by
  intro mem
  obtain ⟨r, -, mem⟩ := List.mem_flatMap.1 mem
  rw [Seen.steps, Seen.headerSteps, AtomReading.steps] at mem
  cases logged <;> cases text : r.body.text <;> simp [Step.lines, text] at mem

theorem keptBy_script (logged : Bool) (b : Bytes) : keptBy ((list b).script logged).steps = textAlone logged b := by
  have free : ({} : Session).sink.NeverFails := .inr rfl
  rw [textAlone, read_eq, Script.kept_of_neverFails (lasting_script logged b) free]
  rfl

end RecordStream

/-! ## Dumps -/

/-- The session with more text written to its sink, muted or not. -/
def Session.putting (s : Session) (text : String) : Session :=
  { s with sink := { s.sink with written := s.sink.written ++ text.toUTF8 } }

namespace Dump

variable {ω : Type}

/-- The entries that were found under the names of record streams, in the order of the answers. -/
def recordEntries (as : List Answer) : List Entry :=
  as.filterMap fun
    | (name, .ok entry) => if name = "PowerPoint Document" ∨ name = "Current User" then some entry else none
    | (_, .error _) => none

/-- The text of the record streams among answers, each by itself. -/
def textOf (debug : Bool) (as : List Answer) : List String :=
  (recordEntries as).flatMap fun entry => RecordStream.textAlone debug entry.bytes

theorem textOf_cons (debug : Bool) (a : Answer) (as : List Answer) :
    textOf debug (a :: as) = textOf debug [a] ++ textOf debug as := by
  have split : recordEntries (a :: as) = recordEntries [a] ++ recordEntries as := List.filterMap_append (l := [a])
  rw [textOf, split, List.flatMap_append]
  rfl

/-- The names of record streams are those of two kinds. -/
theorem classify_of_records (name : String) : (name = "PowerPoint Document" ∨ name = "Current User") ↔
    (EntryKind.classify name = .presentation ∨ EntryKind.classify name = .currentUser) := by
  grind [EntryKind.classify, EntryKind.rootName, EntryKind.presentationName, EntryKind.currentUserName,
    EntryKind.summaryName]

theorem keptBy_visitSteps (debug : Bool) (a : Answer) : keptBy (visitSteps debug a) = textOf debug [a] := by
  obtain ⟨name, e | entry⟩ := a
  · rfl
  have records := classify_of_records name
  rw [visitSteps, keptBy_append, keptBy_append, keptBy_lines, keptBy_notes, List.nil_append, List.append_nil, textOf,
    recordEntries]
  cases kind : EntryKind.classify name <;> rw [kind] at records
  case presentation | currentUser =>
    rw [decodeSteps, RecordStream.keptBy_script]
    simp [records.2]
  case summary =>
    rw [decodeSteps, (PropertySet.tells_script _).keptBy_eq]
    simp [mt records.1]
  case skipped | raw =>
    rw [decodeSteps, keptBy_lines]
    simp [mt records.1]

theorem lasting_visitSteps (debug : Bool) (a : Answer) : Step.forget ∉ visitSteps debug a := by
  obtain ⟨name, e | entry⟩ := a
  · simp [visitSteps]
  have title : Step.forget ∉ (Script.lines (Report.titleLines (banner entry))).steps := (Script.Tells.lines _).lasting
  have decoded : Step.forget ∉ decodeSteps debug (EntryKind.classify name) entry := by
    cases EntryKind.classify name with
    | presentation | currentUser => exact RecordStream.lasting_script debug entry.bytes
    | summary => exact (PropertySet.tells_script entry.bytes).lasting
    | skipped | raw => exact (Script.Tells.lines _).lasting
  rw [Script.lines, Script.ofSteps] at title
  simp [visitSteps, title, decoded]

theorem keptBy_walkSteps (debug : Bool) (as : List Answer) : keptBy (walkSteps debug as) = textOf debug as := by
  induction as with
  | nil => rfl
  | cons a as ih => rw [walkSteps_cons, keptBy_append, keptBy_visitSteps, ih, ← textOf_cons]

theorem lasting_walkSteps (debug : Bool) (as : List Answer) : Step.forget ∉ walkSteps debug as := by
  intro mem
  obtain ⟨a, -, mem⟩ := List.mem_flatMap.1 mem
  exact lasting_visitSteps debug a mem

/-- A walk adds the text of its record streams to the text that is there; one that ends early, a first part of it. -/
theorem visitAll_text (c : Container ω) (config : Config) (names : List String) (o : DumpOutcome) (t : Session)
    (w : ω) :
    let walk := visitAll c (decoders config) names o (t, w)
    let as := (answers c names w).1
    ∃ added, added <+: textOf config.debug as ∧ walk.2.1.text.fragments.toList = t.text.fragments.toList ++ added ∧
      ∀ o', walk.1 = .ok o' → added = textOf config.debug as ∧ o' = walkOutcome as o := by
  intro walk as
  have follows := visitAll_follows c config names o t.sink.muted w t rfl
  obtain ⟨added, front, text, all⟩ := play_kept (lasting_walkSteps config.debug as) t
  rw [keptBy_walkSteps] at front all
  refine ⟨added, front, ?_⟩
  rcases played : play (walkSteps config.debug as) t with ⟨e | u, t'⟩ <;>
    simp only [as] at played <;> rw [played] at follows text all
  · obtain ⟨w', ended⟩ := follows
    simp only [walk, ended]
    exact ⟨text, nofun⟩
  · simp only [walk, follows]
    refine ⟨text, fun o' ok => ⟨all rfl, ?_⟩⟩
    cases ok
    rfl

theorem entries_walkOutcome (as : List Answer) (o : DumpOutcome) :
    (walkOutcome as o).entries.toList = o.entries.toList ++ as.map visitReport := by
  induction as generalizing o with
  | nil => exact (List.append_nil _).symm
  | cons a as ih =>
    have later := ih (o.record (visitReport a))
    rw [DumpOutcome.entries_record, Array.toList_push, List.append_assoc] at later
    exact later

theorem visited_walkOutcome (as : List Answer) (o : DumpOutcome) :
    (walkOutcome as o).visited = o.visited ++ as.map Prod.fst := by
  have name (a : Answer) : (visitReport a).name = a.1 := by obtain ⟨name, e | entry⟩ := a <;> rfl
  rw [DumpOutcome.visited, entries_walkOutcome, List.map_append, List.map_map]
  exact congrArg _ (List.map_congr_left fun a _ => name a)

/-- The outcome of a dump is that of its walk, with the text of its record streams, each by itself. There is one
unless a summary or a write fails. -/
theorem outcome_run (c : Container ω) (config : Config) (s : Session) (w : ω) :
    let as := (answers c c.names w).1
    match run c (decoders config) (s, w) with
    | (.ok o, _) =>
      o = { walkOutcome as {} with text := o.text } ∧ o.text.fragments.toList = textOf config.debug as
    | (.error e, _) => Unopened c s e ∨ ∃ s₀, Opened c s s₀ ∧ ¬ s₀.sink.NeverFails := by
  intro as
  obtain ⟨e, s', unopened, ended⟩ | ⟨s₀, opened, walked⟩ := run_opened c (decoders config) s w
  · rw [ended]
    exact .inl unopened
  have fresh : s₀.text.fragments.toList = [] := by
    obtain ⟨_, _, _, -, -, -, rfl⟩ := opened
    rfl
  obtain ⟨added, -, text, all⟩ := visitAll_text c config c.names {} s₀ w
  rw [fresh, List.nil_append] at text
  rw [walked, afterOpening, Attempt.bind_apply]
  rcases visited : visitAll c (decoders config) c.names {} (s₀, w) with ⟨e | o, s₁, w'⟩ <;> rw [visited] at text all
  · refine .inr ⟨s₀, opened, fun free => ?_⟩
    have ended := (visitAll_follows c config c.names {} s₀.sink.muted w).of_neverFails free
    rw [ended] at visited
    cases visited
  · obtain ⟨rfl, rfl⟩ := all o rfl
    exact ⟨rfl, text⟩

/-- The text of a dump is that of its record streams, each by itself. It ends with an outcome unless a summary
or a write fails. -/
theorem fragments_run (c : Container ω) (config : Config) (s : Session) (w : ω) :
    let as := (answers c c.names w).1
    match run c (decoders config) (s, w) with
    | (.ok o, _) => o.visited = as.map Prod.fst ∧ o.text.fragments.toList = textOf config.debug as
    | (.error e, _) => Unopened c s e ∨ ∃ s₀, Opened c s s₀ ∧ ¬ s₀.sink.NeverFails := by
  intro as
  have ended := outcome_run c config s w
  rcases dumped : run c (decoders config) (s, w) with ⟨e | o, s'⟩ <;> rw [dumped] at ended
  · exact ended
  · obtain ⟨outcome, text⟩ := ended
    refine ⟨?_, text⟩
    rw [outcome]
    exact visited_walkOutcome as {}

/-! ## What is written of the text -/

/-- On a sink without a limit, muted or not, all of the text is written, with line feeds in place of carriage
returns and one more behind it. -/
theorem emitText_apply (o : DumpOutcome) (config : Config) {t : Session} (free : t.sink.capacity = .unlimited) :
    emitText o config t =
      (.ok (), t.putting (if config.dumpText then o.text.normalized ++ "\n" else "")) := by
  have put_apply (t : Session) (free : t.sink.capacity = .unlimited) (text : String) :
      Report.put text t = (.ok (), t.putting text) := by
    rw [Report.put_apply, Sink.accept_unlimited _ _ free]
    rfl
  cases on : config.dumpText with
  | false => simp [emitText, on, Session.putting]
  | true =>
    have twice : (t.putting o.text.normalized).putting "\n" = t.putting (o.text.normalized ++ "\n") := by
      simp [Session.putting, ByteArray.append_assoc]
    rw [emitText, on, if_pos rfl, Attempt.bind_apply, put_apply t free]
    simp only [put_apply (t.putting _) free, twice, if_pos]

/-- The text of a dump is that of its record streams, each read by itself, in the order of the directory. A walk
leaves the text in front of it as it is, even if it ends early. Where text is asked for, all of it is written,
with line feeds in place of carriage returns. -/
theorem run_text (c : Container ω) (config : Config) (s : Session) (w : ω) :
    let as := (answers c c.names w).1
    (match run c (decoders config) (s, w) with
      | (.ok o, _) => o.visited = as.map Prod.fst ∧
          o.text.fragments.toList =
            (recordEntries as).flatMap fun entry => RecordStream.textAlone config.debug entry.bytes
      | (.error e, _) => Unopened c s e ∨ ∃ s₀, Opened c s s₀ ∧ ¬ s₀.sink.NeverFails) ∧
    (∀ (names : List String) (o : DumpOutcome) (t : Session) (w : ω),
      let t' := (visitAll c (decoders config) names o (t, w)).2.1
      ∃ added, t'.text.fragments.toList = t.text.fragments.toList ++ added ∧
        added <+: textOf config.debug (answers c names w).1) ∧
    ∀ (o : DumpOutcome) (t : Session), t.sink.capacity = .unlimited →
      let shown := (o.text.fragments.toList.flatMap String.toList).map fun ch => if ch = '\r' then '\n' else ch
      '\r' ∉ shown ∧ emitText o config t =
        (.ok (), t.putting (if config.dumpText then String.ofList shown ++ "\n" else "")) := by
  intro as
  refine ⟨fragments_run c config s w, fun names o t w => ?_, fun o t free => ?_⟩
  · obtain ⟨added, front, text, -⟩ := visitAll_text c config names o t w
    exact ⟨added, text, front⟩
  · intro shown
    have normal : o.text.normalized = String.ofList shown := by
      rw [ExtractedText.normalized, ExtractedText.contents, String.toList_join]
      rfl
    have clean := o.text.normalized_noReturn
    have written := emitText_apply o config free
    rw [normal] at clean written
    rw [String.toList_ofList] at clean
    exact ⟨clean, written⟩

/-- A dump of two record streams, the first of which is cut short behind its text. -/
theorem run_text_cut :
    let slides : Entry := ⟨"PowerPoint Document", #[0, 0, 168, 15, 2, 0, 0, 0, 65, 13, 0, 0]⟩
    let user : Entry := ⟨"Current User", #[0, 0, 168, 15, 2, 0, 0, 0, 10, 66]⟩
    let c : Container Unit :=
      ⟨pure (), pure (), pure (), [slides.name, user.name],
        fun name => pure (.ok (if name = user.name then user else slides))⟩
    ∃ o, (run c (decoders {}) ({}, ())).1 = .ok o ∧ o.text.fragments.toList = ["A\r\n", "\nB\n"] ∧
      (emitText o { dumpText := true } {}).2.sink.written = "A\n\n\nB\n\n".toUTF8 := by
  intro slides user c
  have texts : textOf false (answers c c.names ()).1 = ["A\r\n", "\nB\n"] := by decide +kernel
  obtain ⟨ended, -, -⟩ := run_text c {} {} ()
  rcases dumped : run c (decoders {}) ({}, ()) with ⟨e | o, s'⟩ <;> rw [dumped] at ended
  · -- nothing is shown in front of the walk, and no write fails in it
    obtain (unopened | ⟨_, -, unopened | ⟨_, -, unopened⟩⟩) | ⟨s₀, ⟨s₁, s₂, s₃, h₁, h₂, h₃, rfl⟩, full⟩ := ended
    · cases unopened
    · cases unopened
    · cases unopened
    · cases h₁
      cases h₂
      cases h₃
      have free : (default : Session).sink.NeverFails := .inr rfl
      exact absurd free full
  · refine ⟨o, rfl, ended.2.trans texts, ?_⟩
    obtain ⟨-, written⟩ := (run_text c { dumpText := true } {} ()).2.2 o {} rfl
    rw [written, ended.2.trans texts]
    decide +kernel

end Dump

end DeckDump
