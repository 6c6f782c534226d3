import DeckDump.Proofs.Dump.Text
import Mathlib.Data.List.Forall2

/-!
# What a verdict depends on

Only record streams and failed lookups count for the verdict of a dump. The payloads of all other
entries may be anything without any effect on it, or on the entries behind them:

* `Container.Alike`: documents that differ in no payload that counts;
* `EntryReport.Alike`: reports of one entry, equal unless the entry does not count;
* `answers_alike`, `visitReport_alike`: such documents answer alike, and alike answers are reported alike;
* `SameVerdict.record`: entries that are reported alike leave two dumps with the same verdict;
* `run_sameVerdict`: so dumps of such documents end with the same verdict.
-/

namespace DeckDump

/-- The names whose payloads are record streams. -/
def EntryKind.IsRecords (name : String) : Prop := name = "PowerPoint Document" ∨ name = "Current User"

instance EntryKind.decidableIsRecords (name : String) : Decidable (EntryKind.IsRecords name) :=
  inferInstanceAs (Decidable (_ ∨ _))

/-- Two answers to the lookup of `name`: the same failure, or two entries, with the same payload if it
is a record stream. -/
inductive LookupAlike (name : String) : Except Error Entry → Except Error Entry → Prop
  | failed (e : Error) : LookupAlike name (.error e) (.error e)
  | found (x y : Entry) (payload : EntryKind.IsRecords name → x.bytes = y.bytes) :
    LookupAlike name (.ok x) (.ok y)

/-- Documents with the same names that answer every lookup alike. What surrounds them may differ,
and `R` says what the lookups keep between the two sides. -/
structure Container.Alike {ω₁ ω₂ : Type} (R : ω₁ → ω₂ → Prop) (c₁ : Container ω₁) (c₂ : Container ω₂) : Prop where
  names : c₁.names = c₂.names
  lookup : ∀ name ∈ c₁.names, ∀ w₁ w₂, R w₁ w₂ →
    LookupAlike name (c₁.lookup name w₁).1 (c₂.lookup name w₂).1 ∧ R (c₁.lookup name w₁).2 (c₂.lookup name w₂).2

/-- Whether an outcome neither spoils nor ends a dump. -/
def EntryOutcome.Harmless : EntryOutcome → Prop
  | .decoded | .tolerated _ => True
  | .degraded _ | .aborted _ => False

/-- Two reports of one entry: the same, or of an entry that holds no records and did no harm. -/
inductive EntryReport.Alike : EntryReport → EntryReport → Prop
  | same (r : EntryReport) : EntryReport.Alike r r
  | harmless {r r' : EntryReport} (name : r.name = r'.name) (kind : r.kind = r'.kind)
    (other : r.kind ≠ .presentation ∧ r.kind ≠ .currentUser) (first : r.outcome.Harmless)
    (second : r'.outcome.Harmless) : EntryReport.Alike r r'

/-- Outcomes with the same verdict, text and visited entries, and alike reports of each of them. -/
structure SameVerdict (o o' : DumpOutcome) : Prop where
  overallSuccess : o.overallSuccess = o'.overallSuccess
  aborted : o.aborted = o'.aborted
  succeeded : o.succeeded = o'.succeeded
  text : o.text = o'.text
  visited : o.visited = o'.visited
  kinds : o.entries.toList.map EntryReport.kind = o'.entries.toList.map EntryReport.kind
  reports : List.Forall₂ EntryReport.Alike o.entries.toList o'.entries.toList

/-- A harmless entry changes nothing but the list of entries. -/
theorem DumpOutcome.record_of_harmless (o : DumpOutcome) {r : EntryReport} (h : r.outcome.Harmless) :
    o.record r = { o with entries := o.entries.push r } := by
  unfold record
  cases outcome : r.outcome with
  | decoded | tolerated => rfl
  | degraded | aborted =>
    rw [outcome] at h
    cases h

namespace EntryReport.Alike

variable {r r' : EntryReport}

theorem name_eq (h : Alike r r') : r.name = r'.name := by
  cases h with
  | same => rfl
  | harmless name => exact name

theorem kind_eq (h : Alike r r') : r.kind = r'.kind := by
  cases h with
  | same => rfl
  | harmless _ kind => exact kind

end EntryReport.Alike

namespace SameVerdict

variable {o o' : DumpOutcome}

/-- The verdict and the text are all that the reports do not decide. -/
theorem of_reports (overallSuccess : o.overallSuccess = o'.overallSuccess) (aborted : o.aborted = o'.aborted)
    (text : o.text = o'.text) (reports : List.Forall₂ EntryReport.Alike o.entries.toList o'.entries.toList) :
    SameVerdict o o' where
  overallSuccess := overallSuccess
  aborted := aborted
  succeeded := by rw [DumpOutcome.succeeded, DumpOutcome.succeeded, overallSuccess, aborted]
  text := text
  visited := List.forall₂_eq_eq_eq ▸ List.rel_map (fun _ _ h => EntryReport.Alike.name_eq h) reports
  kinds := List.forall₂_eq_eq_eq ▸ List.rel_map (fun _ _ h => EntryReport.Alike.kind_eq h) reports
  reports := reports

/-- Entries that are reported alike leave the same verdict behind. -/
theorem record (h : SameVerdict o o') {r r' : EntryReport} (alike : r.Alike r') :
    SameVerdict (o.record r) (o'.record r') := by
  have reports : List.Forall₂ EntryReport.Alike (o.record r).entries.toList (o'.record r').entries.toList := by
    rw [DumpOutcome.entries_record, DumpOutcome.entries_record, Array.toList_push, Array.toList_push]
    exact List.rel_append h.reports (.cons alike .nil)
  cases alike with
  | same =>
    revert reports
    unfold DumpOutcome.record
    cases r.outcome with
    | decoded | tolerated => exact of_reports h.overallSuccess h.aborted h.text
    | degraded => exact of_reports rfl h.aborted h.text
    | aborted => exact of_reports h.overallSuccess rfl h.text
  | harmless _ _ _ first second =>
    rw [o.record_of_harmless first, o'.record_of_harmless second] at reports ⊢
    exact of_reports h.overallSuccess h.aborted h.text reports

end SameVerdict

namespace Dump

/-- Answers to one lookup in two documents. -/
def Answer.Alike (a a' : Answer) : Prop := a.1 = a'.1 ∧ LookupAlike a.1 a.2 a'.2

/-- Alike documents answer the lookups of a walk alike. -/
theorem answers_alike {ω₁ ω₂ : Type} {R : ω₁ → ω₂ → Prop} {c₁ : Container ω₁} {c₂ : Container ω₂}
    (alike : c₁.Alike R c₂) {names : List String} (listed : ∀ name ∈ names, name ∈ c₁.names) {w₁ : ω₁} {w₂ : ω₂}
    (related : R w₁ w₂) : List.Forall₂ Answer.Alike (answers c₁ names w₁).1 (answers c₂ names w₂).1 := by
  induction names generalizing w₁ w₂ with
  | nil => exact .nil
  | cons name rest ih =>
    obtain ⟨here, others⟩ := List.forall_mem_cons.1 listed
    obtain ⟨answer, kept⟩ := alike.lookup name here w₁ w₂ related
    rw [answers, answers]
    by_cases skipped : EntryKind.classify name = .skipped
    · rw [if_pos skipped, if_pos skipped]
      exact ih others related
    rw [if_neg skipped, if_neg skipped]
    rcases looked₁ : c₁.lookup name w₁ with ⟨a₁, w₁'⟩
    rcases looked₂ : c₂.lookup name w₂ with ⟨a₂, w₂'⟩
    rw [looked₁, looked₂] at answer kept
    cases answer with
    | failed e => exact .cons ⟨rfl, .failed e⟩ .nil
    | found x y payload => exact .cons ⟨rfl, .found x y payload⟩ (ih others kept)

/-- An entry that holds no records does no harm, whatever its payload is. -/
theorem harmless_decodeOutcome {kind : EntryKind} (other : kind ≠ .presentation ∧ kind ≠ .currentUser) (entry : Entry) :
    (decodeOutcome kind entry).Harmless := by
  cases kind with
  | presentation => exact absurd rfl other.1
  | currentUser => exact absurd rfl other.2
  | skipped | raw => trivial
  | summary =>
    rw [decodeOutcome]
    cases (PropertySet.script entry.bytes).result with
    | ok => trivial
    | error => trivial

/-- How a record stream fares depends on its payload alone. -/
theorem decodeOutcome_congr {kind : EntryKind} {x y : Entry} (h : x.bytes = y.bytes) :
    decodeOutcome kind x = decodeOutcome kind y := by
  cases kind <;> simp only [decodeOutcome, h]

/-- Alike answers are reported alike. -/
theorem visitReport_alike {a a' : Answer} (h : a.Alike a') : (visitReport a).Alike (visitReport a') := by
  obtain ⟨name, answer⟩ := a
  obtain ⟨name', answer'⟩ := a'
  obtain ⟨rfl, alike⟩ := h
  cases alike with
  | failed e => exact .same _
  | found x y payload =>
    by_cases records : EntryKind.IsRecords name
    · have same : visitReport (name, .ok x) = visitReport (name, .ok y) := by
        rw [visitReport, visitReport, payload records, decodeOutcome_congr (payload records)]
      rw [same]
      exact .same _
    · have other := mt (classify_of_records name).2 records
      rw [not_or] at other
      exact .harmless rfl rfl other (harmless_decodeOutcome other x) (harmless_decodeOutcome other y)

/-- Walks over alike answers end with the same verdict. -/
theorem walkOutcome_sameVerdict {as as' : List Answer} (h : List.Forall₂ Answer.Alike as as') {o o' : DumpOutcome}
    (same : SameVerdict o o') : SameVerdict (walkOutcome as o) (walkOutcome as' o') := by
  induction h generalizing o o' with
  | nil => exact same
  | cons answer _ ih => exact ih (same.record (visitReport_alike answer))

/-- Alike answers hold the same record streams. -/
theorem recordEntries_alike {as as' : List Answer} (h : List.Forall₂ Answer.Alike as as') :
    (recordEntries as).map Entry.bytes = (recordEntries as').map Entry.bytes := by
  induction h with
  | nil => rfl
  | @cons a a' as as' answer _ ih =>
    obtain ⟨name, answer⟩ := a
    obtain ⟨name', answer'⟩ := a'
    obtain ⟨rfl, alike⟩ := answer
    cases alike with
    | failed e => exact ih
    | found x y payload =>
      by_cases records : name = "PowerPoint Document" ∨ name = "Current User"
      · have first (z : Entry) (zs : List Answer) :
            recordEntries ((name, .ok z) :: zs) = z :: recordEntries zs := List.filterMap_cons_some (if_pos records)
        rw [first, first, List.map_cons, List.map_cons, payload records, ih]
      · have first (z : Entry) (zs : List Answer) :
            recordEntries ((name, .ok z) :: zs) = recordEntries zs := List.filterMap_cons_none (if_neg records)
        rw [first, first, ih]

/-- Alike answers hold the same text. -/
theorem textOf_alike (debug : Bool) {as as' : List Answer} (h : List.Forall₂ Answer.Alike as as') :
    textOf debug as = textOf debug as' := by
  have text (as : List Answer) :
      textOf debug as = ((recordEntries as).map Entry.bytes).flatMap (RecordStream.textAlone debug) := by
    rw [textOf, List.flatMap_map]
  rw [text, text, recordEntries_alike h]

section

variable {ω : Type}

theorem Opened.unique {c : Container ω} {s t t' : Session} (h : Opened c s t) (h' : Opened c s t') : t = t' := by
  obtain ⟨s₁, s₂, s₃, summary, header, directory, rfl⟩ := h
  obtain ⟨s₁', s₂', s₃', summary', header', directory', rfl⟩ := h'
  cases summary.symm.trans summary'
  cases header.symm.trans header'
  cases directory.symm.trans directory'
  rfl

theorem Opened.not_unopened {c : Container ω} {s t : Session} (h : Opened c s t) (e : Error) : ¬ Unopened c s e := by
  obtain ⟨s₁, s₂, s₃, summary, header, directory, -⟩ := h
  rintro (failed | ⟨s₁', summary', failed | ⟨s₂', header', failed⟩⟩)
  · rw [summary] at failed
    cases failed
  · cases summary.symm.trans summary'
    rw [header] at failed
    cases failed
  · cases summary.symm.trans summary'
    cases header.symm.trans header'
    rw [directory] at failed
    cases failed

/-- Behind its summaries, a dump on a sink that never fails ends with an outcome. -/
theorem run_of_opened {c : Container ω} (config : Config) {s t : Session} (opened : Opened c s t)
    (free : t.sink.NeverFails) (w : ω) : ∃ o, (run c (decoders config) (s, w)).1 = .ok o := by
  have ended := outcome_run c config s w
  rcases dumped : run c (decoders config) (s, w) with ⟨e | o, s'⟩ <;> rw [dumped] at ended
  · obtain unopened | ⟨t', opened', fails⟩ := ended
    · exact absurd unopened (opened.not_unopened e)
    · rw [← opened.unique opened'] at fails
      exact absurd free fails
  · exact ⟨o, rfl⟩

/-- The outcome of a dump is that of its walk, with the text of its record streams. -/
theorem outcome_of_run {c : Container ω} {config : Config} {s : Session} {w : ω} {o : DumpOutcome}
    (ok : (run c (decoders config) (s, w)).1 = .ok o) :
    o = { walkOutcome (answers c c.names w).1 {} with text := o.text } ∧
      o.text.fragments.toList = textOf config.debug (answers c c.names w).1 := by
  have ended := outcome_run c config s w
  rcases dumped : run c (decoders config) (s, w) with ⟨e | o', s'⟩ <;> rw [dumped] at ok ended <;> cases ok
  exact ended

end

/-- The verdict of a dump does not depend on streams that do not count. Of two documents that differ in
nothing but the payloads of entries that hold no records, dumps end with the same verdict, the same
text, and the same reports of the record streams and of the entry that ended them; and they do end with
an outcome where the sinks do not fail. -/
theorem run_sameVerdict {ω₁ ω₂ : Type} {R : ω₁ → ω₂ → Prop} {c₁ : Container ω₁} {c₂ : Container ω₂}
    (alike : c₁.Alike R c₂) (config : Config) {w₁ : ω₁} {w₂ : ω₂} (related : R w₁ w₂) (s₁ s₂ : Session) :
    let dump₁ := (run c₁ (decoders config) (s₁, w₁)).1
    let dump₂ := (run c₂ (decoders config) (s₂, w₂)).1
    (∀ o₁ o₂, dump₁ = .ok o₁ → dump₂ = .ok o₂ → SameVerdict o₁ o₂) ∧
      ∀ t₁ t₂, Opened c₁ s₁ t₁ → Opened c₂ s₂ t₂ → t₁.sink.NeverFails → t₂.sink.NeverFails →
        ∃ o₁ o₂, dump₁ = .ok o₁ ∧ dump₂ = .ok o₂ := by
  intro dump₁ dump₂
  refine ⟨fun o₁ o₂ ok₁ ok₂ => ?_, fun t₁ t₂ opened₁ opened₂ free₁ free₂ => ?_⟩
  · have answered : List.Forall₂ Answer.Alike (answers c₁ c₁.names w₁).1 (answers c₂ c₂.names w₂).1 := by
      rw [← alike.names]
      exact answers_alike alike (fun _ mem => mem) related
    obtain ⟨outcome₁, fragments₁⟩ := outcome_of_run ok₁
    obtain ⟨outcome₂, fragments₂⟩ := outcome_of_run ok₂
    have fragments : o₁.text.fragments = o₂.text.fragments := by
      rw [← Array.toList_inj, fragments₁, fragments₂, textOf_alike config.debug answered]
    have start : SameVerdict ({} : DumpOutcome) {} := .of_reports rfl rfl rfl .nil
    have walked := walkOutcome_sameVerdict answered start
    rw [outcome₁, outcome₂]
    exact .of_reports walked.overallSuccess walked.aborted (congrArg ExtractedText.mk fragments) walked.reports
  · obtain ⟨o₁, ok₁⟩ := run_of_opened config opened₁ free₁ w₁
    obtain ⟨o₂, ok₂⟩ := run_of_opened config opened₂ free₂ w₂
    exact ⟨o₁, o₂, ok₁, ok₂⟩

/-- A damaged property set beside an empty one, in front of a record stream and of an entry that is missing. -/
theorem run_sameVerdict_damaged :
    let slides : Entry := ⟨"PowerPoint Document", #[0, 0, 168, 15, 2, 0, 0, 0, 72, 105]⟩
    let c (payload : Bytes) : Container Unit :=
      ⟨pure (), pure (), pure (), ["\x05DocumentSummaryInformation", slides.name, "Pictures"], fun name =>
        pure (if name = slides.name then .ok slides
          else if name = "Pictures" then .error (.reported .streamLookup name) else .ok ⟨name, payload⟩)⟩
    ∃ o₁ o₂, (run (c #[1, 2, 3]) (decoders {}) ({}, ())).1 = .ok o₁ ∧ (run (c #[]) (decoders {}) ({}, ())).1 = .ok o₂ ∧
      SameVerdict o₁ o₂ := by
  intro slides c
  have alike : (c #[1, 2, 3]).Alike (fun _ _ => True) (c #[]) := by
    refine ⟨rfl, fun name mem _ _ _ => ⟨?_, trivial⟩⟩
    simp only [c, List.mem_cons, List.not_mem_nil, or_false] at mem
    obtain rfl | rfl | rfl := mem
    · exact .found _ _ fun records => absurd records (by decide)
    · exact .found _ _ fun _ => rfl
    · exact .failed _
  have opened (payload : Bytes) : Opened (c payload) {} {} := ⟨{}, {}, {}, rfl, rfl, rfl, rfl⟩
  have free : ({} : Session).sink.NeverFails := .inr rfl
  obtain ⟨same, ended⟩ := run_sameVerdict alike {} trivial {} {}
  obtain ⟨o₁, o₂, ok₁, ok₂⟩ := ended {} {} (opened _) (opened _) free free
  exact ⟨o₁, o₂, ok₁, ok₂, same o₁ o₂ ok₁ ok₂⟩

end Dump

end DeckDump
