import DeckDump.Proofs.Script

/-!
# Scripts on sinks

What the run of a script leaves behind, on a sink that never fails and on one with limited room:

* `Script.run_of_neverFails`: on a sink that never fails every step is taken;
* `play_fitting`: steps whose output fits into the room of a sink are all taken;
* `play_cut`: of steps whose output does not fit, the sink holds the first bytes, and what is
  noted and kept are the effects of the steps in front of the failing write (`fitting`);
* `play_effect`: what steps do on any sink, to its mute switch, to the text and to the run;
* `PrefixLaw.of_script`: so a script's run obeys the law that a sink with room for `n` bytes either
  changes nothing or ends the run with an output failure behind the first `n` bytes.
-/

namespace DeckDump

namespace Capacity

/-- The capacity of a sink that takes `n` more bytes and then fails, for good or for one write only. -/
def room (glitch : Bool) (n : Nat) : Capacity := if glitch then .glitchAfter n else .upTo n

/-- What is left of `room` behind the write that failed. -/
def spent (glitch : Bool) : Capacity := if glitch then .unlimited else .upTo 0

end Capacity

namespace Sink

/-- Whether no write fails: nothing reaches the sink, or the sink takes everything. -/
def NeverFails (k : Sink) : Prop := k.muted = true ∨ k.capacity = .unlimited

/-- What of written bytes reaches the sink. -/
def shows (k : Sink) (b : ByteArray) : ByteArray := if k.muted then .empty else b

theorem shows_empty (k : Sink) : k.shows .empty = .empty := by simp [shows]

theorem shows_append (k : Sink) (b c : ByteArray) : k.shows (b ++ c) = k.shows b ++ k.shows c := by
  by_cases muted : k.muted
  · rw [shows, shows, shows, if_pos muted, if_pos muted, if_pos muted, ByteArray.append_empty]
  · rw [shows, shows, shows, if_neg muted, if_neg muted, if_neg muted]

theorem accept_fitting (k : Sink) (glitch : Bool) {n : Nat} {b : ByteArray} (h : b.size ≤ n) :
    ({ k with capacity := .room glitch n } : Sink).accept b =
      (true, { k with written := k.written ++ b, capacity := .room glitch (n - b.size) }) := by
  obtain ⟨w, c, muted, f⟩ := k
  cases glitch <;> simp [Capacity.room, accept, h]

theorem accept_cut (k : Sink) (glitch : Bool) {n : Nat} {b : ByteArray} (h : n < b.size) :
    ({ k with capacity := .room glitch n } : Sink).accept b =
      (false, { k with written := k.written ++ b.extract 0 n, capacity := .spent glitch }) := by
  obtain ⟨w, c, muted, f⟩ := k
  cases glitch <;> simp [Capacity.room, Capacity.spent, accept, Nat.not_le.2 h]

end Sink

theorem Log.append_append (log : Log) (xs ys : List Event) : log ++ (xs ++ ys) = log ++ xs ++ ys := by
  apply Array.ext'
  simp

namespace Session

/-- The session with a sink of another capacity. -/
def withCapacity (s : Session) (c : Capacity) : Session := { s with sink := { s.sink with capacity := c } }

/-- The session behind steps of which no write failed. -/
def after (s : Session) (xs : List Step) : Session :=
  { sink := { s.sink with written := s.sink.written ++ s.sink.shows (outputOf xs) },
    log := s.log ++ notedBy xs, text := textAfter s.text xs }

theorem after_nil (s : Session) : s.after [] = s := by
  obtain ⟨⟨w, c, muted, f⟩, log, text⟩ := s
  cases muted <;> simp [after, outputOf, notedBy, textAfter, Sink.shows]

theorem after_append (s : Session) (xs ys : List Step) : s.after (xs ++ ys) = (s.after xs).after ys := by
  have written : s.sink.written ++ s.sink.shows (outputOf (xs ++ ys)) =
      s.sink.written ++ s.sink.shows (outputOf xs) ++ s.sink.shows (outputOf ys) := by
    rw [outputOf_append, Sink.shows_append, ByteArray.append_assoc]
  have logged : s.log ++ notedBy (xs ++ ys) = s.log ++ notedBy xs ++ notedBy ys := by
    rw [notedBy_append, Log.append_append]
  rw [after, written, logged, textAfter_append]
  rfl

theorem neverFails_after {s : Session} (h : s.sink.NeverFails) (xs : List Step) : (s.after xs).sink.NeverFails := h

/-- A written text changes the sink alone. -/
theorem after_write (s : Session) (t : String) :
    s.after [.write t] = { s with sink := { s.sink with written := s.sink.written ++ s.sink.shows t.toUTF8 } } := by
  simp [after, outputOf, Step.output, notedBy, Step.noted, textAfter, Step.keptAfter]

end Session

/-! ## Sinks that never fail -/

/-- A step that writes nothing is taken on every sink. -/
theorem Step.run_silent {x : Step} (h : ∀ t, x ≠ .write t) (s : Session) : x.run s = (.ok (), s.after [x]) := by
  obtain ⟨sink, log, text⟩ := s
  cases x with
  | write t => exact absurd rfl (h t)
  | note e =>
    simp [Step.run, Report.note, Session.after, outputOf, output, notedBy, noted, textAfter, keptAfter,
      Sink.shows_empty]
    rfl
  | keep fragment =>
    simp [Step.run, Session.after, outputOf, output, notedBy, noted, textAfter, keptAfter, Sink.shows_empty]
    rfl
  | forget =>
    simp [Step.run, Report.clearText, Session.after, outputOf, output, notedBy, noted, textAfter, keptAfter,
      Sink.shows_empty]
    rfl

theorem Step.run_of_neverFails (x : Step) {s : Session} (h : s.sink.NeverFails) : x.run s = (.ok (), s.after [x]) := by
  cases x with
  | note | keep | forget => exact Step.run_silent (by simp) s
  | write t =>
    obtain ⟨⟨w, c, muted, f⟩, log, text⟩ := s
    simp only [Step.run, Report.write_apply, Session.after_write, Sink.shows]
    cases muted with
    | true => simp
    | false =>
      rw [if_neg (by simp), Report.put_apply, Sink.accept_unlimited _ _ (h.resolve_left (by simp))]
      simp

theorem play_of_neverFails (xs : List Step) {s : Session} (h : s.sink.NeverFails) :
    play xs s = (.ok (), s.after xs) := by
  induction xs generalizing s with
  | nil => rw [Session.after_nil]; rfl
  | cons x xs ih =>
    rw [play, Attempt.bind_apply, x.run_of_neverFails h]
    simp only [ih (Session.neverFails_after h [x]), ← Session.after_append, List.singleton_append]

theorem Script.run_of_neverFails {α : Type} (m : Script α) {s : Session} (h : s.sink.NeverFails) :
    m.run s = (m.result, s.after m.steps) := by
  rw [Script.run_apply, play_of_neverFails _ h]

/-! ## Sinks with limited room -/

/-- The steps in front of the first write that does not fit into `n` bytes. -/
def fitting : Nat → List Step → List Step
  | _, [] => []
  | n, x :: xs => if x.output.size ≤ n then x :: fitting (n - x.output.size) xs else []

theorem fitting_of_le {n : Nat} {xs : List Step} (h : (outputOf xs).size ≤ n) : fitting n xs = xs := by
  induction xs generalizing n with
  | nil => rfl
  | cons x xs ih =>
    simp only [outputOf, ByteArray.size_append] at h
    rw [fitting, if_pos (by omega), ih (by omega)]

theorem fitting_append (n : Nat) (xs ys : List Step) :
    fitting n (xs ++ ys) =
      if (outputOf xs).size ≤ n then xs ++ fitting (n - (outputOf xs).size) ys else fitting n xs := by
  induction xs generalizing n with
  | nil => simp [outputOf]
  | cons x xs ih =>
    rw [List.cons_append, fitting, ih, fitting, outputOf, ByteArray.size_append]
    by_cases first : x.output.size ≤ n
    · rw [if_pos first, if_pos first]
      by_cases fits : x.output.size + (outputOf xs).size ≤ n
      · rw [if_pos fits, if_pos (by omega), List.cons_append, Nat.sub_sub]
      · rw [if_neg fits, if_neg (by omega)]
    · rw [if_neg first, if_neg first, if_neg (by omega)]

/-- Steps that leave the text as it is do so as far as they fit. -/
theorem textAfter_fitting {xs : List Step} (quiet : ∀ x ∈ xs, ∀ t, x.keptAfter t = t) (n : Nat) (t : ExtractedText) :
    textAfter t (fitting n xs) = t := by
  induction xs generalizing n with
  | nil => rfl
  | cons x xs ih =>
    have later := ih (fun y hy => quiet y (List.mem_cons_of_mem x hy)) (n - x.output.size)
    rw [fitting]
    split
    · rw [textAfter, List.foldl_cons, quiet x (List.mem_cons_self ..)]
      exact later
    · rfl

/-- The session behind steps of which the sink took the first `n` bytes. -/
def Session.cut (s : Session) (n : Nat) (xs : List Step) : Session :=
  { sink := { s.sink with written := s.sink.written ++ (outputOf xs).extract 0 n },
    log := s.log ++ notedBy (fitting n xs), text := textAfter s.text (fitting n xs) }

theorem Session.cut_over {s : Session} {n : Nat} {x : Step} (h : n < x.output.size) (xs : List Step) :
    s.cut n (x :: xs) = { s with sink := { s.sink with written := s.sink.written ++ x.output.extract 0 n } } := by
  have first : (outputOf (x :: xs)).extract 0 n = x.output.extract 0 n := by
    rw [outputOf, ByteArray.extract_append, show n - x.output.size = 0 by omega, Nat.zero_sub, ByteArray.extract_same,
      ByteArray.append_empty]
  have none_fits : fitting n (x :: xs) = [] := by rw [fitting, if_neg (Nat.not_le.2 h)]
  rw [Session.cut, first, none_fits]
  simp [notedBy, textAfter]

theorem Session.cut_cons {s : Session} (open_ : s.sink.muted = false) {n : Nat} {x : Step} (h : x.output.size ≤ n)
    (xs : List Step) : s.cut n (x :: xs) = (s.after [x]).cut (n - x.output.size) xs := by
  have first : x.output.extract 0 n = x.output := by
    have whole := ByteArray.extract_zero_max_size (a := x.output) (i := n)
    rwa [Nat.max_eq_left h] at whole
  have written : s.sink.written ++ (outputOf (x :: xs)).extract 0 n =
      (s.after [x]).sink.written ++ (outputOf xs).extract 0 (n - x.output.size) := by
    rw [outputOf, ByteArray.extract_append, first, Nat.zero_sub, ← ByteArray.append_assoc]
    simp [Session.after, Sink.shows, open_, outputOf]
  have fits : fitting n (x :: xs) = [x] ++ fitting (n - x.output.size) xs := by
    rw [fitting, if_pos h, List.singleton_append]
  rw [Session.cut, written, fits, notedBy_append, textAfter_append, Log.append_append]
  rfl

theorem Step.run_fitting (x : Step) {s : Session} (open_ : s.sink.muted = false) (glitch : Bool) {n : Nat}
    (h : x.output.size ≤ n) :
    x.run (s.withCapacity (.room glitch n)) =
      (.ok (), (s.after [x]).withCapacity (.room glitch (n - x.output.size))) := by
  cases x with
  | note | keep | forget => exact Step.run_silent (by simp) _
  | write t =>
    have taken := s.sink.accept_fitting glitch h
    rw [Step.run, Report.write_apply, if_neg (by simp [Session.withCapacity, open_]), Report.put_apply]
    simp only [Step.output] at taken
    simp only [Session.withCapacity, taken, Session.after_write, Sink.shows]
    simp [open_, Step.output]

theorem Step.run_cut (x : Step) {s : Session} (open_ : s.sink.muted = false) (glitch : Bool) {n : Nat}
    (h : n < x.output.size) :
    x.run (s.withCapacity (.room glitch n)) = (.error (.io "closed"), (s.cut n [x]).withCapacity (.spent glitch)) := by
  cases x with
  | note | keep | forget => simp [Step.output] at h
  | write t =>
    have refused := s.sink.accept_cut glitch h
    rw [Step.run, Report.write_apply, if_neg (by simp [Session.withCapacity, open_]), Report.put_apply,
      Session.cut_over h []]
    simp only [Step.output] at refused
    simp only [Session.withCapacity, refused]
    rfl

theorem play_fitting (xs : List Step) {s : Session} (open_ : s.sink.muted = false) (glitch : Bool) {n : Nat}
    (h : (outputOf xs).size ≤ n) :
    play xs (s.withCapacity (.room glitch n)) =
      (.ok (), (s.after xs).withCapacity (.room glitch (n - (outputOf xs).size))) := by
  induction xs generalizing s n with
  | nil => rw [Session.after_nil]; rfl
  | cons x xs ih =>
    simp only [outputOf, ByteArray.size_append] at h
    rw [play, Attempt.bind_apply, x.run_fitting open_ glitch (by omega)]
    simp only [ih (s := s.after [x]) open_ (n := n - x.output.size) (by omega), ← Session.after_append,
      List.singleton_append, outputOf, ByteArray.size_append, Nat.sub_sub]

theorem play_cut (xs : List Step) {s : Session} (open_ : s.sink.muted = false) (glitch : Bool) {n : Nat}
    (h : n < (outputOf xs).size) :
    play xs (s.withCapacity (.room glitch n)) = (.error (.io "closed"), (s.cut n xs).withCapacity (.spent glitch)) := by
  induction xs generalizing s n with
  | nil => simp [outputOf] at h
  | cons x xs ih =>
    rw [play, Attempt.bind_apply]
    by_cases fits : x.output.size ≤ n
    · simp only [outputOf, ByteArray.size_append] at h
      rw [x.run_fitting open_ glitch fits, Session.cut_cons open_ fits]
      exact ih (s := s.after [x]) open_ (n := n - x.output.size) (by omega)
    · have exceeds := Nat.lt_of_not_le fits
      rw [x.run_cut open_ glitch exceeds, Session.cut_over exceeds xs, Session.cut_over exceeds []]

/-- What a step does on any sink: the mute switch stays, the text is kept, and only the sink makes it fail. -/
theorem Step.run_effect (x : Step) (s : Session) :
    (x.run s).2.sink.muted = s.sink.muted ∧ (x.run s).2.text = x.keptAfter s.text ∧
      ∀ e, (x.run s).1 = .error e → e = .io "closed" := by
  cases x with
  | note | keep | forget =>
    rw [Step.run_silent (by simp)]
    exact ⟨rfl, rfl, by simp⟩
  | write t =>
    rw [Step.run, Report.write_apply]
    by_cases muted : s.sink.muted
    · rw [if_pos muted]
      exact ⟨rfl, rfl, by simp⟩
    · rw [if_neg muted, Report.put_apply]
      refine ⟨s.sink.accept_muted _, rfl, fun e failed => ?_⟩
      dsimp only at failed
      split at failed <;> cases failed
      rfl

/-- What steps do on any sink: the mute switch stays, steps that have all been taken have kept their text,
and only the sink keeps steps from being taken. -/
theorem play_effect (xs : List Step) (s : Session) :
    (play xs s).2.sink.muted = s.sink.muted ∧
      match (play xs s).1 with
      | .ok _ => (play xs s).2.text = textAfter s.text xs
      | .error e => e = .io "closed" := by
  induction xs generalizing s with
  | nil => exact ⟨rfl, rfl⟩
  | cons x xs ih =>
    obtain ⟨muted, text, failure⟩ := x.run_effect s
    rw [play, Attempt.bind_apply]
    rcases taken : x.run s with ⟨e | _, mid⟩ <;> rw [taken] at muted text failure
    · exact ⟨muted, failure e rfl⟩
    · have later := ih mid
      rw [muted, text] at later
      exact later

/-- The law of a failing sink, for a run over sessions. On a sink that takes `n` bytes and then fails,
for good or for one write only, the run is the one on a sink without a limit if what that writes fits;
if not, the run ends in an output failure, and the sink holds the first `n` bytes. -/
def PrefixLaw {α : Type} (run : Session → Except Error α × Session) : Prop :=
  ∀ (s : Session) (glitch : Bool) (n : Nat),
    let free := run (s.withCapacity .unlimited)
    let tight := run (s.withCapacity (.room glitch n))
    ∃ shown, free.2.sink.written = s.sink.written ++ shown ∧
      (shown.size ≤ n → tight.1 = free.1 ∧ tight.2.sink.written = s.sink.written ++ shown) ∧
      (n < shown.size →
        (∃ reason, tight.1 = .error (.io reason)) ∧ tight.2.sink.written = s.sink.written ++ shown.extract 0 n)

/-- The runs of one script obey the law; which one it is may depend on the mute switch. -/
theorem PrefixLaw.of_script {α : Type} {run : Session → Except Error α × Session} (script : Bool → Script α)
    (h : ∀ s, (run s).1 = ((script s.sink.muted).run s).1 ∧
      (run s).2.sink = ((script s.sink.muted).run s).2.sink) : PrefixLaw run := by
  intro s glitch n
  obtain ⟨free_result, free_sink⟩ := h (s.withCapacity .unlimited)
  obtain ⟨tight_result, tight_sink⟩ := h (s.withCapacity (.room glitch n))
  have free : (s.withCapacity .unlimited).sink.NeverFails := .inr rfl
  rw [Script.run_of_neverFails _ free] at free_result free_sink
  refine ⟨s.sink.shows (outputOf (script s.sink.muted).steps), congrArg Sink.written free_sink, ?_⟩
  have switch : (s.withCapacity (.room glitch n)).sink.muted = s.sink.muted := rfl
  simp only [free_result, tight_result, tight_sink, switch]
  by_cases muted : s.sink.muted
  · -- nothing reaches a muted sink
    have quiet : (s.withCapacity (.room glitch n)).sink.NeverFails := .inl muted
    rw [Script.run_of_neverFails _ quiet]
    refine ⟨fun _ => ⟨rfl, rfl⟩, fun exceeds => ?_⟩
    simp [Sink.shows, muted] at exceeds
  · have open_ : s.sink.muted = false := by simpa using muted
    rw [Sink.shows, if_neg muted, Script.run_apply]
    refine ⟨fun fits => ?_, fun exceeds => ?_⟩
    · rw [play_fitting _ open_ glitch fits]
      simp [Session.withCapacity, Session.after, Sink.shows, open_]
    · rw [play_cut _ open_ glitch exceeds]
      exact ⟨⟨_, rfl⟩, rfl⟩

end DeckDump
