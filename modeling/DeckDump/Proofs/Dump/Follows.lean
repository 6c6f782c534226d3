import DeckDump.Dump.Walk
import DeckDump.Proofs.Sink

/-!
# Visits that follow scripts

A visit follows a script when it takes the script's steps on every session of one mute switch, and
carries its surroundings from one state to another on the way (`Follows`). Visits that follow
scripts are put together as the scripts are:

* `Follows.pure`, `Follows.within`, `Follows.note`, `Follows.beside`: the visits that a walk starts from;
* `Follows.bind`, `Follows.settle`: one visit behind another, and a decoder whose faults become
  outcomes;
* `Follows.of_neverFails`: what such a visit leaves behind on a sink that never fails;
* `Follows.prefixLaw`: such a visit obeys the law of a failing sink.
-/

namespace DeckDump

namespace Visit

variable {ω α β : Type}

/-- `m` takes the steps of `x` on every session whose mute switch is `muted`. If no write fails, it
ends as `x` does and leaves `w'` of surroundings `w`. -/
def Follows (m : Visit ω α) (muted : Bool) (w : ω) (x : Script α) (w' : ω) : Prop :=
  ∀ s : Session, s.sink.muted = muted →
    match play x.steps s with
    | (.ok _, s') => m (s, w) = (x.result, (s', w'))
    | (.error e, s') => ∃ w'', m (s, w) = (.error e, (s', w''))

namespace Follows

variable {muted : Bool} {w w' w'' : ω}

theorem pure (a : α) : Follows (Pure.pure a : Visit ω α) muted w (Pure.pure a) w := fun _ _ => rfl

/-- A report that does what a script lays out for the mute switch. -/
theorem within_of_muted {r : Report α} {x : Script α} (h : ∀ s, s.sink.muted = muted → r s = x.run s) :
    Follows (Attempt.within r : Visit ω α) muted w x w := by
  intro s switch
  have run := h s switch
  rw [Script.run_apply] at run
  rcases played : play x.steps s with ⟨_ | _, s'⟩ <;> rw [played] at run
  · exact ⟨w, by simp [Attempt.within, ExceptT.mk, run]⟩
  · simp [Attempt.within, ExceptT.mk, run]

theorem within {r : Report α} {x : Script α} (h : r = x.run) : Follows (Attempt.within r : Visit ω α) muted w x w :=
  within_of_muted fun s _ => congrFun h s

theorem note (e : Event) :
    Follows (Attempt.within (Report.note e) : Visit ω Unit) muted w (Script.ofSteps [.note e]) w :=
  .within (Script.run_note e).symm

theorem beside (m : StateM ω α) : Follows (Attempt.beside m : Visit ω α) muted w (Pure.pure (m w).1) (m w).2 :=
  fun _ _ => rfl

theorem bind {m : Visit ω α} {f : α → Visit ω β} {x : Script α} {a : α} {y z : Script β} (h : Follows m muted w x w')
    (ok : x.result = .ok a) (next : Follows (f a) muted w' y w'') (both : z = ⟨x.steps ++ y.steps, y.result⟩) :
    Follows (m >>= f) muted w z w'' := by
  subst both
  intro s switch
  have first := h s switch
  simp only [play_append, Attempt.bind_apply]
  rcases played : play x.steps s with ⟨e | _, mid⟩
  · rw [played] at first
    obtain ⟨left, ended⟩ := first
    exact ⟨left, by rw [ended]⟩
  · have kept := (play_effect x.steps s).1
    rw [played] at kept
    rw [played, ok] at first
    simp only [first]
    exact next mid (kept.trans switch)

/-- What becomes of a decoder's end: faults turn into outcomes. -/
def settled (onFault : String → EntryOutcome) : Except Error Unit → EntryOutcome
  | .ok _ => .decoded
  | .error e => onFault e.message

theorem settle {m : Visit ω Unit} {x : Script Unit} (onFault : String → EntryOutcome) (h : Follows m muted w x w')
    (fault : ∀ e, x.result = .error e → e.isOutputFailure = false) :
    Follows (Dump.settle onFault m) muted w ⟨x.steps, .ok (settled onFault x.result)⟩ w' := by
  intro s switch
  have decoded := h s switch
  have effect := (play_effect x.steps s).2
  rw [Dump.settle_apply]
  rcases played : play x.steps s with ⟨e | _, s'⟩ <;> rw [played] at decoded effect
  · -- an output failure is no fault of the document
    obtain ⟨left, ended⟩ := decoded
    have closed : e = .io "closed" := effect
    refine ⟨left, ?_⟩
    rw [ended, closed]
    rfl
  · simp only [decoded]
    cases result : x.result with
    | ok => rfl
    | error e =>
      simp only [fault e result, Bool.false_eq_true, if_false]
      rfl

/-- Reading the kept text behind steps that decide it. -/
theorem keptText {m : Visit ω α} {x : Script α} {a : α} {t : ExtractedText} (h : Follows m muted w x w')
    (ok : x.result = .ok a) (known : ∀ t', textAfter t' x.steps = t) (f : α → ExtractedText → β) :
    Follows (do let a ← m; let t ← Attempt.within Report.keptText; return f a t : Visit ω β) muted w
      ⟨x.steps, .ok (f a t)⟩ w' := by
  intro s switch
  have first := h s switch
  have effect := (play_effect x.steps s).2
  simp only [Attempt.bind_apply]
  rcases played : play x.steps s with ⟨e | _, s'⟩ <;> rw [played] at first effect
  · obtain ⟨w'', ended⟩ := first
    exact ⟨w'', by rw [ended]⟩
  · have text : s'.text = t := Eq.trans effect (known s.text)
    simp only [first, ok]
    rw [← text]
    rfl

theorem of_neverFails {m : Visit ω α} {x : Script α} {s : Session} (h : Follows m s.sink.muted w x w')
    (free : s.sink.NeverFails) : m (s, w) = (x.result, (s.after x.steps, w')) := by
  have run := h s rfl
  rwa [play_of_neverFails _ free] at run

theorem prefixLaw {m : Visit ω α} {x : Bool → Script α} {w' : Bool → ω}
    (h : ∀ muted, Follows m muted w (x muted) (w' muted)) :
    PrefixLaw fun s => ((m (s, w)).1, (m (s, w)).2.1) := by
  refine .of_script x fun s => ?_
  have run := h s.sink.muted s rfl
  rw [Script.run_apply]
  rcases played : play (x s.sink.muted).steps s with ⟨e | _, s'⟩ <;> rw [played] at run
  · obtain ⟨w'', ended⟩ := run
    rw [ended]
    exact ⟨rfl, rfl⟩
  · rw [run]
    exact ⟨rfl, rfl⟩

end Follows

end Visit

end DeckDump
