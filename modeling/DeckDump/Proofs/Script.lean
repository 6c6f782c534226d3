import DeckDump.Report.Basic

/-!
# Scripts

A script lays a report out in advance: the steps it takes as long as every write is taken, and
how it ends then. A report that is the run of a script (`Script.run`) reads nothing of its
session, so one script describes it on every sink:

* `run_throw`, `run_bind`: scripts are put together as reports are;
* `run_line`, `run_lines`, `run_section`, `run_note`, `run_keepText`: the scripts of what reports
  are made of;
* `output_lines`, `noted_lines`, `textAfter_lines`: what the steps of lines show, note and keep.
-/

namespace DeckDump

theorem Sink.accept_muted (k : Sink) (b : ByteArray) : (k.accept b).2.muted = k.muted := by
  obtain ⟨w, c, muted, f⟩ := k
  cases c <;> simp only [accept] <;> split <;> rfl

namespace Report

theorem put_apply (t : String) (s : Session) :
    put t s = (if (s.sink.accept t.toUTF8).1 then .ok () else .error (.io "closed"),
      { s with sink := (s.sink.accept t.toUTF8).2 }) := by
  obtain ⟨sink, log, text⟩ := s
  simp only [put, ExceptT.mk]
  rcases sink.accept t.toUTF8 with ⟨_ | _, _⟩ <;> rfl

theorem write_apply (t : String) (s : Session) :
    write t s = if s.sink.muted then (.ok (), s) else put t s := by
  obtain ⟨⟨w, c, muted, f⟩, log, text⟩ := s
  cases muted <;> rfl

theorem line_eq_write (l : String) : line l = (do write l; write "\n") := by
  funext s
  have plain : line l s = if s.sink.muted then (.ok (), s) else (do put l; put "\n" : Report Unit) s := by
    obtain ⟨⟨w, c, muted, f⟩, log, text⟩ := s
    cases muted <;> rfl
  rw [plain, Attempt.bind_apply, Attempt.bind_apply, write_apply]
  by_cases muted : s.sink.muted
  · simp only [muted, if_true, write_apply]
  · -- the first piece leaves the mute switch as it is for the line feed
    simp only [muted, Bool.false_eq_true, if_false, put_apply l]
    cases (s.sink.accept l.toUTF8).1 with
    | false => rfl
    | true => simp only [if_true, write_apply, Sink.accept_muted, muted, Bool.false_eq_true, if_false]

end Report

/-- One thing that a report does to its session. -/
inductive Step
  /-- Writes text unless the sink is muted. -/
  | write (text : String)
  | note (e : Event)
  /-- Adds a fragment to the text kept. -/
  | keep (fragment : String)
  /-- Forgets the text kept so far. -/
  | forget
deriving DecidableEq

namespace Step

/-- The step as a report. -/
def run : Step → Report Unit
  | write text => Report.write text
  | note e => Report.note e
  | keep fragment => ExceptT.mk fun ⟨sink, log, text⟩ => (.ok (), ⟨sink, log, text.append fragment⟩)
  | forget => Report.clearText

/-- The bytes that the step writes on a sink that is not muted. -/
def output : Step → ByteArray
  | write text => text.toUTF8
  | _ => .empty

/-- The events that the step notes. -/
def noted : Step → List Event
  | note e => [e]
  | _ => []

/-- The text kept behind the step. -/
def keptAfter (t : ExtractedText) : Step → ExtractedText
  | keep fragment => t.append fragment
  | forget => {}
  | _ => t

/-- The steps that write lines. -/
def lines (ls : List String) : List Step := ls.flatMap fun l => [write l, write "\n"]

end Step

/-- The bytes that steps write, one behind the other. -/
def outputOf : List Step → ByteArray
  | [] => .empty
  | x :: xs => x.output ++ outputOf xs

/-- The events that steps note, in order. -/
def notedBy (xs : List Step) : List Event := xs.flatMap Step.noted

/-- The text kept behind steps that start with `t`. -/
def textAfter (t : ExtractedText) (xs : List Step) : ExtractedText := xs.foldl Step.keptAfter t

/-- The bytes of lines, each with its line feed. -/
def shownLines (ls : List String) : ByteArray := (String.join (ls.map (· ++ "\n"))).toUTF8

/-- Takes steps in order, up to the first whose write fails. -/
def play : List Step → Report Unit
  | [] => pure ()
  | x :: xs => do
    x.run
    play xs

/-- The steps of a report, and how it ends when they have all been taken. -/
structure Script (α : Type) where
  steps : List Step
  result : Except Error α

namespace Script

variable {α β : Type}

instance : Monad Script where
  pure a := ⟨[], .ok a⟩
  bind m f := match m.result with
    | .ok a => ⟨m.steps ++ (f a).steps, (f a).result⟩
    | .error e => ⟨m.steps, .error e⟩

/-- The script of steps that end well. -/
def ofSteps (xs : List Step) : Script Unit := ⟨xs, .ok ()⟩

/-- The script that ends at once with an error. -/
def fail (e : Error) : Script α := ⟨[], .error e⟩

/-- The script that writes lines. -/
def lines (ls : List String) : Script Unit := ofSteps (Step.lines ls)

/-- The report that a script lays out. -/
def run (m : Script α) : Report α := do
  play m.steps
  ExceptT.mk fun s => (m.result, s)

theorem bind_def (m : Script α) (f : α → Script β) :
    m >>= f = match m.result with
      | .ok a => ⟨m.steps ++ (f a).steps, (f a).result⟩
      | .error e => ⟨m.steps, .error e⟩ := rfl

theorem ofSteps_bind (xs : List Step) (f : Unit → Script β) :
    ofSteps xs >>= f = ⟨xs ++ (f ()).steps, (f ()).result⟩ := rfl

end Script

theorem play_append (xs ys : List Step) : play (xs ++ ys) = (do play xs; play ys) := by
  induction xs with
  | nil => rfl
  | cons x xs ih => simp [play, ih]

theorem outputOf_append (xs ys : List Step) : outputOf (xs ++ ys) = outputOf xs ++ outputOf ys := by
  induction xs with
  | nil => simp [outputOf]
  | cons x xs ih => simp [outputOf, ih, ByteArray.append_assoc]

theorem notedBy_append (xs ys : List Step) : notedBy (xs ++ ys) = notedBy xs ++ notedBy ys := by
  simp [notedBy]

theorem noted_lines (ls : List String) : notedBy (Step.lines ls) = [] := by
  induction ls with
  | nil => rfl
  | cons l ls ih => exact ih

theorem textAfter_append (t : ExtractedText) (xs ys : List Step) :
    textAfter t (xs ++ ys) = textAfter (textAfter t xs) ys := by
  simp [textAfter]

theorem textAfter_lines (t : ExtractedText) (ls : List String) : textAfter t (Step.lines ls) = t := by
  induction ls with
  | nil => rfl
  | cons l ls ih => exact ih

theorem shownLines_append (ls ms : List String) : shownLines (ls ++ ms) = shownLines ls ++ shownLines ms := by
  simp [shownLines]

theorem output_lines (ls : List String) : outputOf (Step.lines ls) = shownLines ls := by
  induction ls with
  | nil => rfl
  | cons l ls ih =>
    have first : outputOf (Step.lines [l]) = shownLines [l] := by simp [Step.lines, outputOf, Step.output, shownLines]
    have split : Step.lines (l :: ls) = Step.lines [l] ++ Step.lines ls := rfl
    rw [split, outputOf_append, ih, first, ← shownLines_append, List.singleton_append]

namespace Script

variable {α β : Type}

theorem run_apply (m : Script α) (s : Session) :
    m.run s = match play m.steps s with
      | (.ok _, s') => (m.result, s')
      | (.error e, s') => (.error e, s') := by
  rw [run, Attempt.bind_apply]
  rcases play m.steps s with ⟨_ | _, _⟩ <;> rfl

theorem run_throw (e : Error) : (fail e : Script α).run = throw e := rfl

theorem run_ofSteps (xs : List Step) : (ofSteps xs).run = play xs := by
  funext s
  rw [run_apply]
  simp only [ofSteps]
  rcases play xs s with ⟨_ | _, _⟩ <;> rfl

theorem run_bind (m : Script α) (f : α → Script β) : (m >>= f).run = m.run >>= fun a => (f a).run := by
  funext s
  rw [run_apply, Attempt.bind_apply, run_apply, bind_def]
  rcases m with ⟨xs, _ | a⟩
  · rcases play xs s with ⟨_ | _, _⟩ <;> rfl
  · simp only [play_append, Attempt.bind_apply, run_apply]
    rcases play xs s with ⟨_ | _, s'⟩ <;> rfl

theorem run_note (e : Event) : (ofSteps [.note e]).run = Report.note e := by
  rw [run_ofSteps]
  exact bind_pure _

theorem run_lines (ls : List String) : (lines ls).run = Report.lines ls := by
  rw [lines, run_ofSteps]
  induction ls with
  | nil => rfl
  | cons l ls ih =>
    have split : Step.lines (l :: ls) = [.write l, .write "\n"] ++ Step.lines ls := rfl
    simp only [split, play_append, ih, Report.lines, Report.line_eq_write, play, Step.run, bind_pure_unit, bind_assoc]

theorem run_line (l : String) : (lines [l]).run = Report.line l := by
  rw [run_lines]
  exact bind_pure _

theorem run_section (title : String) : (lines (Report.titleLines title)).run = Report.section title :=
  run_lines _

theorem run_keepText (fragment : String) :
    (ofSteps [.note (.textKept fragment.utf8ByteSize), .keep fragment]).run = Report.keepText fragment := by
  rw [run_ofSteps]
  simp only [play, bind_pure_unit]
  rfl

end Script

end DeckDump
