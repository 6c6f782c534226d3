import DeckDump.Proofs.Sink

/-!
# The text that scripts keep

Steps add fragments to the text of a session, or forget it. Steps that forget nothing only add:

* `keptBy`: the fragments that steps keep;
* `play_kept`: on any sink, such steps add what they keep, or a first part of it if a write fails;
* `Script.kept_of_neverFails`: on a sink that never fails, all of it;
* `Script.Tells`: scripts that only write and note, so keep nothing.
-/

namespace DeckDump

/-- The fragments that steps keep. -/
def keptBy (xs : List Step) : List String :=
  xs.filterMap fun
    | .keep fragment => some fragment
    | _ => none

theorem keptBy_append (xs ys : List Step) : keptBy (xs ++ ys) = keptBy xs ++ keptBy ys := List.filterMap_append

theorem keptBy_lines (ls : List String) : keptBy (Step.lines ls) = [] := by
  induction ls with
  | nil => rfl
  | cons l ls ih => exact ih

theorem keptBy_notes (es : List Event) : keptBy (es.map Step.note) = [] := by
  induction es with
  | nil => rfl
  | cons e es ih => exact ih

/-- A step that forgets nothing adds what it keeps. -/
theorem Step.kept {x : Step} (lasting : x ≠ .forget) (t : ExtractedText) :
    (x.keptAfter t).fragments.toList = t.fragments.toList ++ keptBy [x] := by
  cases x with
  | write | note => exact (List.append_nil _).symm
  | keep fragment => exact Array.toList_push
  | forget => exact absurd rfl lasting

/-- Steps add what they keep; if a write fails, what those in front of it keep. -/
theorem play_kept {xs : List Step} (lasting : Step.forget ∉ xs) (s : Session) :
    ∃ added, added <+: keptBy xs ∧ (play xs s).2.text.fragments.toList = s.text.fragments.toList ++ added ∧
      ((play xs s).1 = .ok () → added = keptBy xs) := by
  induction xs generalizing s with
  | nil => exact ⟨[], List.nil_prefix, (List.append_nil _).symm, fun _ => rfl⟩
  | cons x xs ih =>
    rw [List.mem_cons, not_or] at lasting
    obtain ⟨-, text, -⟩ := x.run_effect s
    have kept := Step.kept (Ne.symm lasting.1) s.text
    have split : keptBy (x :: xs) = keptBy [x] ++ keptBy xs := keptBy_append [x] xs
    rw [play, Attempt.bind_apply]
    rcases taken : x.run s with ⟨e | u, mid⟩ <;> rw [taken] at text
    · refine ⟨keptBy [x], ?_, text ▸ kept, fun ok => by cases ok⟩
      rw [split]
      exact List.prefix_append _ _
    · obtain ⟨added, front, later, all⟩ := ih lasting.2 mid
      refine ⟨keptBy [x] ++ added, ?_, ?_, fun ok => ?_⟩
      · rw [split]
        exact (List.prefix_append_right_inj _).2 front
      · rw [later, text, kept, List.append_assoc]
      · rw [all ok, split]

/-- On a sink that never fails, a script adds all that its steps keep. -/
theorem Script.kept_of_neverFails {α : Type} {m : Script α} (lasting : Step.forget ∉ m.steps) {s : Session}
    (free : s.sink.NeverFails) :
    (m.run s).2.text.fragments.toList = s.text.fragments.toList ++ keptBy m.steps := by
  obtain ⟨added, -, text, all⟩ := play_kept lasting s
  rw [play_of_neverFails _ free] at text all
  rw [Script.run_of_neverFails _ free, ← all rfl]
  exact text

/-- Whether a script only writes and notes. -/
def Script.Tells {α : Type} (x : Script α) : Prop := ∀ st ∈ x.steps, (∃ t, st = .write t) ∨ ∃ e, st = .note e

namespace Script.Tells

variable {α β : Type}

theorem pure (a : α) : (Pure.pure a : Script α).Tells := fun _ mem => absurd mem List.not_mem_nil

theorem fail (e : Error) : (Script.fail e : Script α).Tells := fun _ mem => absurd mem List.not_mem_nil

theorem lines (ls : List String) : (Script.lines ls).Tells := by
  intro st mem
  obtain ⟨l, -, mem⟩ := List.mem_flatMap.1 mem
  simp only [List.mem_cons, List.not_mem_nil, or_false] at mem
  rcases mem with rfl | rfl <;> exact .inl ⟨_, rfl⟩

theorem note (e : Event) : (Script.ofSteps [.note e]).Tells := by
  intro st mem
  exact .inr ⟨e, List.mem_singleton.1 mem⟩

theorem bind {x : Script α} {f : α → Script β} (first : x.Tells) (next : ∀ a, (f a).Tells) : (x >>= f).Tells := by
  obtain ⟨xs, e | a⟩ := x
  · exact first
  · intro st mem
    exact (List.mem_append.1 mem).elim (first st) (next a st)

theorem keptBy_eq {x : Script α} (h : x.Tells) : keptBy x.steps = [] := by
  refine List.filterMap_eq_nil_iff.2 fun st mem => ?_
  obtain ⟨t, rfl⟩ | ⟨e, rfl⟩ := h st mem <;> rfl

theorem lasting {x : Script α} (h : x.Tells) : Step.forget ∉ x.steps := by
  intro mem
  obtain ⟨t, he⟩ | ⟨e, he⟩ := h _ mem <;> cases he

end Script.Tells

end DeckDump
