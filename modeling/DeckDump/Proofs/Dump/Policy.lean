import DeckDump.Proofs.Dump.Recorded
import DeckDump.Proofs.Dump.Script

/-!
# The policy of a walk

Which entries of a document are looked up, which decoder each is handed to and what becomes of its
answer, for any document and any decoders, whatever they answer:

* `section_banner`: the title of an entry, spelled out;
* `Visited`: an entry that a walk has visited, with the calls made and the report;
* `Visited.Links`, `Linked`: how the sessions around visits hang together;
* `visitEntry_cases`: a visit makes the calls of one `Visited`, or breaks off (`Breaks`);
* `visitAll_cases`: so does a walk, for the names up to the first that cannot be looked up
  (`visitAll_answered` says besides that it is told what the document answers);
* `run_answered`: a dump that ends with an outcome has made such a walk;
* `run_policy`: a dump, with its outcome.
-/

namespace DeckDump

/-- The session with more events in its log. -/
def Session.noting (s : Session) (es : List Event) : Session := { s with log := s.log ++ es }

/-- The route of a name is that of its kind. -/
theorem Route.ofName_eq (name : String) :
    Route.ofName name = match EntryKind.classify name with
      | .presentation | .currentUser => .records
      | .summary => .propertySet
      | .skipped | .raw => .raw := by
  have by_constants : Route.ofName name =
      if name = EntryKind.presentationName ∨ name = EntryKind.currentUserName then .records
      else if name = EntryKind.summaryName then .propertySet else .raw := rfl
  by_cases skipped : name = "" ∨ name = EntryKind.rootName
  · rw [EntryKind.classify, if_pos skipped]
    obtain rfl | rfl := skipped <;> rfl
  rw [EntryKind.classify, if_neg skipped, by_constants]
  by_cases presentation : name = EntryKind.presentationName
  · rw [if_pos presentation, if_pos (.inl presentation)]
  by_cases user : name = EntryKind.currentUserName
  · rw [if_neg presentation, if_pos user, if_pos (.inr user)]
  rw [if_neg presentation, if_neg user, if_neg (not_or.2 ⟨presentation, user⟩)]
  by_cases summary : name = EntryKind.summaryName
  · rw [if_pos summary, if_pos summary]
  · rw [if_neg summary, if_neg summary]

namespace Dump

variable {ω : Type}

/-- How showing the title of an entry ends: its name, with the characters escaped that are no text, and its size. -/
def showTitle (entry : Entry) : Report Unit :=
  Report.section (Text.escapeControls entry.name ++ " (size: " ++ toString entry.bytes.size ++ " bytes)")

/-- A visit shows this title. -/
theorem section_banner (entry : Entry) : Report.section (banner entry) = showTitle entry := by
  simp only [banner, showTitle]
  rfl

/-- An entry that a walk has visited. -/
inductive Visited
  /-- Its lookup failed. -/
  | missed (name : String) (e : Error)
  /-- It was found and handed to its decoder, in session `start`; the decoder left session `stop`. -/
  | dumped (name : String) (entry : Entry) (start : Session) (answer : Except Error Unit) (stop : Session)

namespace Visited

/-- The name that was looked up. -/
def name : Visited → String
  | missed name _ | dumped name _ _ _ _ => name

/-- What the lookup answered. -/
def answer : Visited → Except Error Entry
  | missed _ e => .error e
  | dumped _ entry _ _ _ => .ok entry

/-- The calls of the visit: one lookup, and one decoder if the entry was found. -/
def calls : Visited → List Call
  | missed name e => [.lookup name (.error e)]
  | dumped name entry start answer stop =>
    [.lookup name (.ok entry), .decode (Route.ofName name) entry start answer stop]

/-- How the entry fared. A failed raw dump ends the walk, so it has no outcome of its own. -/
def outcome : Visited → EntryOutcome
  | missed _ e => .aborted e.message
  | dumped _ _ _ (.ok _) _ => .decoded
  | dumped name _ _ (.error e) _ =>
    match Route.ofName name with
    | .records => .degraded e.message
    | .propertySet | .raw => .tolerated e.message

/-- The size of the payload, zero if there is none. -/
def size : Visited → Nat
  | missed .. => 0
  | dumped _ entry _ _ _ => entry.bytes.size

/-- What is reported of the visit. -/
def report (v : Visited) : EntryReport := ⟨v.name, EntryKind.classify v.name, v.size, v.outcome⟩

/-- Whether the entry was found. -/
def Found : Visited → Prop
  | missed .. => False
  | dumped .. => True

/-- Whether a failure of the decoder is one that does not end the walk. -/
def Settled : Visited → Prop
  | missed .. => True
  | dumped name _ _ answer _ =>
    ∀ e, answer = .error e → e.isOutputFailure = false ∧ Route.ofName name ≠ .raw

/-- How the session changes from `s` to `s'` around the visit: besides what the decoder does, one title is
shown in front of the decoder's call, and a failure is noted. -/
def Links (s : Session) (v : Visited) (s' : Session) : Prop :=
  match v with
  | missed name e => s' = s.noting [.lookupFailed name e]
  | dumped name entry start _ stop =>
    showTitle entry s = (.ok (), start) ∧ s' = stop.noting (outcomeEvents name v.outcome)

end Visited

/-- How the session changes from `s` to `s'` in visits that follow each other. -/
def Linked : Session → List Visited → Session → Prop
  | s, [], s' => s' = s
  | s, v :: vs, s' => ∃ mid, v.Links s mid ∧ Linked mid vs s'

/-- Why a visit of the entry called `name` breaks off in session `s`, and the calls it has made: its title
could not be shown, its decoder had an output failure, or its raw dump failed. -/
def Breaks (s : Session) (name : String) (e : Error) (made : List Call) : Prop :=
  ∃ entry,
    ((showTitle entry s).1 = .error e ∧ made = [.lookup name (.ok entry)]) ∨
    ∃ start stop, showTitle entry s = (.ok (), start) ∧
      made = [.lookup name (.ok entry), .decode (Route.ofName name) entry start (.error e) stop] ∧
      (e.isOutputFailure = true ∨ Route.ofName name = .raw)

/-- The names that a walk does not pass over. -/
def listed (names : List String) : List String := names.filter fun name => name ≠ "" ∧ name ≠ "Root Entry"

theorem listed_cons (name : String) (rest : List String) :
    listed (name :: rest) = if EntryKind.classify name = .skipped then listed rest else name :: listed rest := by
  rw [listed, List.filter_cons]
  by_cases skipped : EntryKind.classify name = .skipped
  · have passed := (EntryKind.classify_eq_skipped_iff name).1 skipped
    rw [if_pos skipped, if_neg]
    · rfl
    · simp only [decide_eq_true_eq]
      exact fun shown => passed.elim shown.1 shown.2
  · have shown := fun h => skipped ((EntryKind.classify_eq_skipped_iff name).2 h)
    rw [if_neg skipped, if_pos]
    · rfl
    · simp only [decide_eq_true_eq]
      exact ⟨fun h => shown (.inl h), fun h => shown (.inr h)⟩

theorem settle_record (onFault : String → EntryOutcome) (route : Route) (entry : Entry) {m : Visit ω Unit}
    {start stop : Session} {w w' : ω} {answer : Except Error Unit} (h : m (start, w) = (answer, (stop, w')))
    (calls : List Call) :
    settle onFault (Call.record route entry m) (start, (w, calls)) =
      (match answer with
        | .ok _ => .ok .decoded
        | .error e => if e.isOutputFailure then .error e else .ok (onFault e.message),
        (stop, (w', calls ++ [.decode route entry start answer stop]))) := by
  have recorded : Call.record route entry m (start, (w, calls)) =
      (answer, (stop, (w', calls ++ [.decode route entry start answer stop]))) := by
    simp only [Call.record, ExceptT.mk, h]
  rw [settle_apply, recorded]
  cases answer with
  | ok => rfl
  | error e =>
    dsimp only
    split <;> rfl

/-- What becomes of a decoder's answer. -/
theorem decode_recorded_cases (ds : Decoders ω) (name : String) (entry : Entry) (start : Session) (w : ω)
    (calls : List Call) :
    ∃ answer stop w',
      decode ds.recorded (EntryKind.classify name) entry (start, (w, calls)) =
        (match answer with
          | .ok _ => .ok .decoded
          | .error e =>
            if e.isOutputFailure = true ∨ Route.ofName name = .raw then .error e
            else .ok (Visited.dumped name entry start answer stop).outcome,
          (stop, (w', calls ++ [.decode (Route.ofName name) entry start answer stop]))) := by
  have route := Route.ofName_eq name
  rcases answered : ds.along (Route.ofName name) entry (start, w) with ⟨answer, stop, w'⟩
  refine ⟨answer, stop, w', ?_⟩
  cases kind : EntryKind.classify name <;> simp only [kind] at route <;> rw [route] at answered ⊢
  case presentation | currentUser | summary =>
    refine (settle_record _ _ entry answered calls).trans ?_
    cases answer with
    | ok => rfl
    | error e => simp [Visited.outcome, route]
  case skipped | raw =>
    have recorded : Call.record .raw entry (ds.raw entry) (start, (w, calls)) =
        (answer, (stop, (w', calls ++ [.decode .raw entry start answer stop]))) := by
      simp only [Decoders.along] at answered
      simp only [Call.record, ExceptT.mk, answered]
    simp only [decode, Attempt.bind_apply, Decoders.recorded, recorded]
    cases answer with
    | ok => rfl
    | error e => simp

theorem noteOutcome_apply (name : String) (o : EntryOutcome) (s : Session) :
    noteOutcome name o s = (.ok (), s.noting (outcomeEvents name o)) := by
  cases o <;> rfl

/-- A visit makes the calls of one visited entry, or breaks off. -/
theorem visitEntry_cases (c : Container ω) (ds : Decoders ω) (name : String) (s : Session) (w : ω) (calls : List Call) :
    match visitEntry c.recorded ds.recorded name (s, (w, calls)) with
    | (.ok report, (s', (_, calls'))) =>
      ∃ v : Visited, v.name = name ∧ v.answer = (c.lookup name w).1 ∧ v.Settled ∧ v.Links s s' ∧
        calls' = calls ++ v.calls ∧ report = v.report
    | (.error e, (_, (_, calls'))) => ∃ made, Breaks s name e made ∧ calls' = calls ++ made := by
  have looked : Attempt.beside (c.recorded.lookup name) (s, (w, calls)) =
      (.ok (c.lookup name w).1, (s, ((c.lookup name w).2, calls ++ [.lookup name (c.lookup name w).1]))) := rfl
  rw [visitEntry, Attempt.bind_apply, looked]
  rcases c.lookup name w with ⟨e | entry, w'⟩
  · exact ⟨.missed name e, rfl, rfl, trivial, rfl, rfl, rfl⟩
  simp only [Attempt.bind_apply, Attempt.within, ExceptT.mk, noteOutcome_apply, Attempt.pure_apply, section_banner]
  rcases titled : showTitle entry s with ⟨e | u, start⟩
  · exact ⟨_, ⟨entry, .inl ⟨by rw [titled], rfl⟩⟩, rfl⟩
  obtain ⟨answer, stop, w'', decoded⟩ :=
    decode_recorded_cases ds name entry start w' (calls ++ [.lookup name (.ok entry)])
  simp only [decoded]
  cases answer with
  | ok u =>
    refine ⟨.dumped name entry start (.ok ()) stop, rfl, rfl, ?_, ⟨titled, rfl⟩, by simp [Visited.calls], rfl⟩
    simp [Visited.Settled]
  | error e =>
    by_cases fatal : e.isOutputFailure = true ∨ Route.ofName name = .raw
    · simp only [if_pos fatal]
      exact ⟨_, ⟨entry, .inr ⟨start, stop, titled, rfl, fatal⟩⟩, by simp⟩
    · simp only [if_neg fatal]
      refine ⟨.dumped name entry start (.error e) stop, rfl, rfl, ?_, ⟨titled, rfl⟩, by simp [Visited.calls], rfl⟩
      rintro _ ⟨⟩
      rw [not_or, Bool.not_eq_true] at fatal
      exact fatal

/-- A walk over names: the entries visited, the names that are left, and the sessions around them. -/
structure Walked (s : Session) (names : List String) (visits : List Visited) (rest : List String) (s' : Session) :
    Prop where
  /-- The names are visited in their order, each as often as it is there. -/
  names : names = visits.map Visited.name ++ rest
  settled : ∀ v ∈ visits, v.Settled
  linked : Linked s visits s'

/-- A walk has visited all names, or its last visit is the only one whose lookup failed. -/
def Ended (visits : List Visited) (rest : List String) : Prop :=
  ((∀ v ∈ visits, v.Found) ∧ rest = []) ∨
    ∃ front name e, visits = front ++ [.missed name e] ∧ ∀ v ∈ front, v.Found

theorem Walked.cons {s mid s' : Session} {names rest : List String} {v : Visited} {visits : List Visited}
    (settled : v.Settled) (links : v.Links s mid) (h : Walked mid names visits rest s') :
    Walked s (v.name :: names) (v :: visits) rest s' where
  names := by rw [h.names]; rfl
  settled := List.forall_mem_cons.2 ⟨settled, h.settled⟩
  linked := ⟨mid, links, h.linked⟩

theorem Ended.cons {v : Visited} {visits : List Visited} {rest : List String} (found : v.Found)
    (h : Ended visits rest) : Ended (v :: visits) rest := by
  obtain ⟨all, none⟩ | ⟨front, name, e, rfl, all⟩ := h
  · exact .inl ⟨List.forall_mem_cons.2 ⟨found, all⟩, none⟩
  · exact .inr ⟨v :: front, name, e, rfl, List.forall_mem_cons.2 ⟨found, all⟩⟩

theorem Visited.found_or_missed (v : Visited) : v.Found ∨ ∃ name e, v = .missed name e := by
  cases v with
  | missed name e => exact .inr ⟨name, e, rfl⟩
  | dumped => exact .inl trivial

/-- Only a failed lookup aborts. -/
theorem Visited.outcome_of_found {v : Visited} (h : v.Found) (reason : String) : v.outcome ≠ .aborted reason := by
  cases v with
  | missed => cases h
  | dumped name entry start answer stop =>
    cases answer with
    | ok => simp [outcome]
    | error e =>
      simp only [outcome]
      split <;> simp

/-- The outcome of visits, without its text. -/
def outcomeOf (visits : List Visited) (o : DumpOutcome) : DumpOutcome := visits.foldl (fun o v => o.record v.report) o

/-- A walk visits the names up to the first that cannot be looked up, or breaks off at one. What it is told of
a name is what the document answers. -/
theorem visitAll_answered (c : Container ω) (ds : Decoders ω) (names : List String) (o : DumpOutcome) (s : Session)
    (w : ω) (calls : List Call) :
    match visitAll c.recorded ds.recorded names o (s, (w, calls)) with
    | (.ok o', (s', (_, calls'))) => ∃ visits rest, Walked s (listed names) visits rest s' ∧ Ended visits rest ∧
        calls' = calls ++ visits.flatMap Visited.calls ∧ o' = outcomeOf visits o ∧
        ∀ v ∈ visits, ∃ w, v.answer = (c.lookup v.name w).1
    | (.error e, (_, (_, calls'))) => ∃ visits name rest mid made, Walked s (listed names) visits (name :: rest) mid ∧
        (∀ v ∈ visits, v.Found) ∧ Breaks mid name e made ∧ calls' = calls ++ visits.flatMap Visited.calls ++ made := by
  induction names generalizing o s w calls with
  | nil => exact ⟨[], [], ⟨rfl, by simp, rfl⟩, .inl ⟨by simp, rfl⟩, by simp, rfl, by simp⟩
  | cons name rest ih =>
    rw [visitAll, listed_cons]
    by_cases skipped : EntryKind.classify name = .skipped
    · simp only [if_pos skipped]
      exact ih o s w calls
    simp only [if_neg skipped, Attempt.bind_apply]
    have visit := visitEntry_cases c ds name s w calls
    rcases visited : visitEntry c.recorded ds.recorded name (s, (w, calls)) with ⟨e | report, mid, w', calls'⟩ <;>
      rw [visited] at visit
    · obtain ⟨made, breaks, rfl⟩ := visit
      exact ⟨[], name, listed rest, s, made, ⟨rfl, by simp, rfl⟩, by simp, breaks, by simp⟩
    obtain ⟨v, rfl, answered, settled, links, rfl, rfl⟩ := visit
    obtain found | ⟨name, e, rfl⟩ := v.found_or_missed
    · have later := ih (o.record v.report) mid w' (calls ++ v.calls)
      cases outcome : v.report.outcome with
      | aborted reason => exact absurd outcome (Visited.outcome_of_found found reason)
      | decoded | degraded | tolerated =>
        simp only [outcome]
        rcases walked : visitAll c.recorded ds.recorded rest (o.record v.report) (mid, (w', calls ++ v.calls)) with
          ⟨e | o', s', w'', calls''⟩ <;> rw [walked] at later
        · obtain ⟨visits, next, left, last, made, walk, all, breaks, rfl⟩ := later
          exact ⟨v :: visits, next, left, last, made, walk.cons settled links, List.forall_mem_cons.2 ⟨found, all⟩,
            breaks, by simp⟩
        · obtain ⟨visits, left, walk, ended, rfl, rfl, told⟩ := later
          exact ⟨v :: visits, left, walk.cons settled links, ended.cons found, by simp, rfl,
            List.forall_mem_cons.2 ⟨⟨w, answered⟩, told⟩⟩
    · exact ⟨[.missed name e], listed rest, .cons settled links ⟨rfl, by simp, rfl⟩, .inr ⟨[], name, e, rfl, by simp⟩,
        by simp, rfl, List.forall_mem_cons.2 ⟨⟨w, answered⟩, by simp⟩⟩

theorem entries_outcomeOf (visits : List Visited) (o : DumpOutcome) :
    (outcomeOf visits o).entries.toList = o.entries.toList ++ visits.map Visited.report := by
  induction visits generalizing o with
  | nil => simp [outcomeOf]
  | cons v visits ih =>
    have later := ih (o.record v.report)
    rw [DumpOutcome.entries_record, Array.toList_push, List.append_assoc] at later
    exact later

/-- Entries that were found do not abort the dump. -/
theorem aborted_outcomeOf {visits : List Visited} (found : ∀ v ∈ visits, v.Found) (o : DumpOutcome) :
    (outcomeOf visits o).aborted = o.aborted := by
  induction visits generalizing o with
  | nil => rfl
  | cons v visits ih =>
    have later := ih (fun v' h => found v' (List.mem_cons_of_mem v h)) (o.record v.report)
    have goes_on := Visited.outcome_of_found (found v (List.mem_cons_self ..))
    exact later.trans (o.aborted_record goes_on)

/-- An entry that was not found aborts the dump. -/
theorem aborted_outcomeOf_missed (front : List Visited) (name : String) (e : Error) (o : DumpOutcome) :
    (outcomeOf (front ++ [.missed name e]) o).aborted = some e.message := by
  rw [outcomeOf, List.foldl_append]
  rfl

/-- The summaries of a document are shown, one behind the other, from session `s` on to `s'`; text that
they keep is forgotten. -/
def Opened (c : Container ω) (s s' : Session) : Prop :=
  ∃ s₁ s₂ s₃, c.showSummary s = (.ok (), s₁) ∧ c.showHeader s₁ = (.ok (), s₂) ∧ c.showDirectory s₂ = (.ok (), s₃) ∧
    s' = { s₃ with text := {} }

/-- One of the summaries fails. -/
def Unopened (c : Container ω) (s : Session) (e : Error) : Prop :=
  (c.showSummary s).1 = .error e ∨ ∃ s₁, c.showSummary s = (.ok (), s₁) ∧
    ((c.showHeader s₁).1 = .error e ∨ ∃ s₂, c.showHeader s₁ = (.ok (), s₂) ∧ (c.showDirectory s₂).1 = .error e)

/-- The part of a dump behind its summaries. -/
def afterOpening (c : Container ω) (ds : Decoders ω) : Visit ω DumpOutcome := do
  let o ← visitAll c ds c.names {}
  Attempt.within (Report.note (.walked o.entries.size o.overallSuccess o.aborted.isSome))
  let text ← Attempt.within Report.keptText
  return { o with text }

/-- A dump shows its summaries, and then walks. -/
theorem run_opened (c : Container ω) (ds : Decoders ω) (s : Session) (w : ω) :
    (∃ e s', Unopened c s e ∧ run c ds (s, w) = (.error e, (s', w))) ∨
      ∃ s₀, Opened c s s₀ ∧ run c ds (s, w) = afterOpening c ds (s₀, w) := by
  have split : run c ds = (do
    Attempt.within c.showSummary
    Attempt.within c.showHeader
    Attempt.within c.showDirectory
    Attempt.within Report.clearText
    afterOpening c ds) := rfl
  simp only [split, Attempt.bind_apply, Attempt.within, ExceptT.mk]
  rcases summary : c.showSummary s with ⟨e | u, s₁⟩
  · exact .inl ⟨e, s₁, .inl (by rw [summary]), rfl⟩
  dsimp only
  rcases header : c.showHeader s₁ with ⟨e | u, s₂⟩
  · exact .inl ⟨e, s₂, .inr ⟨s₁, summary, .inl (by rw [header])⟩, rfl⟩
  dsimp only
  rcases directory : c.showDirectory s₂ with ⟨e | u, s₃⟩
  · exact .inl ⟨e, s₃, .inr ⟨s₁, summary, .inr ⟨s₂, header, by rw [directory]⟩⟩, rfl⟩
  exact .inr ⟨_, ⟨s₁, s₂, s₃, summary, header, directory, rfl⟩, rfl⟩

/-- A dump that ends with an outcome has visited the listed names up to the first that was not found, and reports
what it was told of them. -/
theorem run_answered {c : Container ω} {ds : Decoders ω} {s s' : Session} {w w' : ω} {o : DumpOutcome}
    {calls : List Call} (dumped : run c.recorded ds.recorded (s, (w, [])) = (.ok o, (s', (w', calls)))) :
    ∃ visits rest, listed c.names = visits.map Visited.name ++ rest ∧ Ended visits rest ∧
      (∀ v ∈ visits, ∃ w, v.answer = (c.lookup v.name w).1) ∧ calls = visits.flatMap Visited.calls ∧
      o.entries.toList = visits.map Visited.report ∧ o.aborted = (outcomeOf visits {}).aborted := by
  obtain ⟨e, s₁, -, ended⟩ | ⟨s₀, -, walked⟩ := run_opened c.recorded ds.recorded s (w, [])
  · rw [ended] at dumped
    cases dumped
  rw [walked, afterOpening, Attempt.bind_apply] at dumped
  have walk := visitAll_answered c ds c.names {} s₀ w []
  have names_eq : c.recorded.names = c.names := rfl
  rw [names_eq] at dumped
  rcases visited : visitAll c.recorded ds.recorded c.names {} (s₀, (w, [])) with ⟨e | o', s₁, w', calls'⟩ <;>
    rw [visited] at walk dumped
  · cases dumped
  obtain ⟨visits, rest, walk, ended, rfl, rfl, told⟩ := walk
  cases dumped
  exact ⟨visits, rest, walk.names, ended, told, List.nil_append _, entries_outcomeOf visits {}, rfl⟩

end Dump

end DeckDump
