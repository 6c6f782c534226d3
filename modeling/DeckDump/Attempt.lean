import DeckDump.Error

/-!
# Attempts

A computation over a state that ends in a value or in an error. The state it reached is kept
either way, so that what was written or noted in front of an error stays.

* `bind_apply`: the second step starts in the state that the first reached, unless that failed
* `tryCatch_apply`: so does the handler of an error
-/

namespace DeckDump

/-- A computation over a state `σ` that ends in a value or an error and keeps the state it reached. -/
abbrev Attempt (σ α : Type) := ExceptT Error (StateM σ) α

namespace Attempt

variable {σ ω α β : Type}

/-- An attempt over the first part of a state. -/
def within (m : Attempt σ α) : Attempt (σ × ω) α :=
  ExceptT.mk fun (s, w) => match m s with
    | (r, s') => (r, (s', w))

/-- A step on the second part of a state. -/
def beside (m : StateM ω α) : Attempt (σ × ω) α :=
  ExceptT.mk fun (s, w) => match m w with
    | (a, w') => (.ok a, (s, w'))

@[simp]
theorem pure_apply (a : α) (s : σ) : (pure a : Attempt σ α) s = (.ok a, s) := rfl

@[simp]
theorem throw_apply (e : Error) (s : σ) : (throw e : Attempt σ α) s = (.error e, s) := rfl

theorem bind_apply (m : Attempt σ α) (f : α → Attempt σ β) (s : σ) :
    (m >>= f) s = match m s with
      | (.ok a, s') => f a s'
      | (.error e, s') => (.error e, s') := by
  simp only [bind, ExceptT.bind, ExceptT.mk, ExceptT.bindCont, StateT.bind]
  rcases m s with ⟨_ | _, _⟩ <;> rfl

theorem tryCatch_apply (m : Attempt σ α) (handle : Error → Attempt σ α) (s : σ) :
    (tryCatch m handle) s = match m s with
      | (.ok a, s') => (.ok a, s')
      | (.error e, s') => handle e s' := by
  simp only [tryCatch, tryCatchThe, MonadExceptOf.tryCatch, ExceptT.tryCatch, ExceptT.mk, bind, StateT.bind]
  rcases m s with ⟨_ | _, _⟩ <;> rfl

end Attempt

end DeckDump
