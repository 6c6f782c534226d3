import DeckDump.Dump.Walk

/-!
# Recorded dumps

A document and decoders can be made to record what a dump asks of them (`Container.recorded`,
`Decoders.recorded`): each lookup with its answer, and each call of a decoder with its answer and
the sessions around it. Recording changes nothing else (`run_recorded`).
-/

namespace DeckDump

/-- The decoder that an entry is handed to. -/
inductive Route
  | records
  | propertySet
  | raw
deriving DecidableEq

/-- The decoder for an entry that is listed as `name`. -/
def Route.ofName (name : String) : Route :=
  if name = "PowerPoint Document" ∨ name = "Current User" then .records
  else if name = "\x05DocumentSummaryInformation" then .propertySet
  else .raw

/-- What a dump asks of a document and of its decoders, and what they answer. -/
inductive Call
  | lookup (name : String) (answer : Except Error Entry)
  /-- A decoder was handed an entry in session `start`, and left session `stop`. -/
  | decode (route : Route) (entry : Entry) (start : Session) (answer : Except Error Unit) (stop : Session)

variable {ω α β : Type}

/-- The decoder of a route. -/
def Decoders.along (ds : Decoders ω) : Route → Entry → Visit ω Unit
  | .records => ds.records
  | .propertySet => ds.propertySet
  | .raw => ds.raw

/-- The document, recording its lookups. -/
def Container.recorded (c : Container ω) : Container (ω × List Call) where
  showSummary := c.showSummary
  showHeader := c.showHeader
  showDirectory := c.showDirectory
  names := c.names
  lookup name := fun (w, calls) =>
    match c.lookup name w with
    | (answer, w') => (answer, (w', calls ++ [.lookup name answer]))

/-- A decoder call, recorded. -/
def Call.record (route : Route) (entry : Entry) (m : Visit ω Unit) : Visit (ω × List Call) Unit :=
  ExceptT.mk fun (start, (w, calls)) =>
    match m (start, w) with
    | (answer, (stop, w')) => (answer, (stop, (w', calls ++ [.decode route entry start answer stop])))

/-- The decoders, recording their calls. -/
def Decoders.recorded (ds : Decoders ω) : Decoders (ω × List Call) where
  records entry := Call.record .records entry (ds.records entry)
  propertySet entry := Call.record .propertySet entry (ds.propertySet entry)
  raw entry := Call.record .raw entry (ds.raw entry)

namespace Dump

/-- Whether `m'` does what `m` does, whatever was recorded before. -/
def Records (m' : Visit (ω × List Call) α) (m : Visit ω α) : Prop :=
  ∀ s w calls, m (s, w) =
    ((m' (s, (w, calls))).1, ((m' (s, (w, calls))).2.1, (m' (s, (w, calls))).2.2.1))

namespace Records

theorem pure (a : α) : Records (Pure.pure a) (Pure.pure a : Visit ω α) := fun _ _ _ => rfl

theorem within (m : Report α) : Records (Attempt.within m) (Attempt.within m : Visit ω α) := fun _ _ _ => rfl

theorem lookup (c : Container ω) (name : String) :
    Records (Attempt.beside (c.recorded.lookup name)) (Attempt.beside (c.lookup name)) := fun _ _ _ => rfl

theorem call (route : Route) (entry : Entry) (m : Visit ω Unit) : Records (Call.record route entry m) m :=
  fun _ _ _ => rfl

theorem bind {m' : Visit (ω × List Call) α} {m : Visit ω α} {f' : α → Visit (ω × List Call) β} {f : α → Visit ω β}
    (first : Records m' m) (next : ∀ a, Records (f' a) (f a)) : Records (m' >>= f') (m >>= f) := by
  intro s w calls
  rw [Attempt.bind_apply, Attempt.bind_apply, first s w calls]
  rcases m' (s, (w, calls)) with ⟨e | a, s', w', calls'⟩
  · rfl
  · exact next a s' w' calls'

theorem settle (onFault : String → EntryOutcome) {m' : Visit (ω × List Call) Unit} {m : Visit ω Unit}
    (h : Records m' m) : Records (Dump.settle onFault m') (Dump.settle onFault m) := by
  intro s w calls
  rw [settle_apply, settle_apply, h s w calls]
  rcases m' (s, (w, calls)) with ⟨e | _, s', w', calls'⟩
  · dsimp only
    split <;> rfl
  · rfl

end Records

theorem decode_recorded (ds : Decoders ω) (kind : EntryKind) (entry : Entry) :
    Records (decode ds.recorded kind entry) (decode ds kind entry) := by
  cases kind with
  | presentation | currentUser => exact .settle _ (.call _ _ _)
  | summary => exact .settle _ (.call _ _ _)
  | skipped | raw => exact .bind (.call _ _ _) fun _ => .pure _

theorem visitEntry_recorded (c : Container ω) (ds : Decoders ω) (name : String) :
    Records (visitEntry c.recorded ds.recorded name) (visitEntry c ds name) := by
  refine .bind (.lookup c name) fun answer => ?_
  cases answer with
  | error e => exact .bind (.within _) fun _ => .pure _
  | ok entry =>
    refine .bind (.within _) fun _ => .bind (decode_recorded ds _ entry) fun o => ?_
    exact .bind (.within _) fun _ => .pure _

theorem visitAll_recorded (c : Container ω) (ds : Decoders ω) (names : List String) (o : DumpOutcome) :
    Records (visitAll c.recorded ds.recorded names o) (visitAll c ds names o) := by
  induction names generalizing o with
  | nil => exact .pure o
  | cons name rest ih =>
    rw [visitAll, visitAll]
    split
    · exact ih o
    · refine .bind (visitEntry_recorded c ds name) fun report => ?_
      cases report.outcome with
      | aborted reason => exact .pure _
      | decoded | degraded | tolerated => exact ih _

/-- A recorded dump is the dump. -/
theorem run_recorded (c : Container ω) (ds : Decoders ω) : Records (run c.recorded ds.recorded) (run c ds) := by
  refine .bind (.within _) fun _ => .bind (.within _) fun _ => .bind (.within _) fun _ => .bind (.within _) fun _ => ?_
  refine .bind (visitAll_recorded c ds c.names {}) fun o => ?_
  exact .bind (.within _) fun _ => .bind (.within _) fun _ => .pure _

end Dump

end DeckDump
