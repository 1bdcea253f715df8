import PhraseKey.Error

/-!
Computations on a state that may fail. The second part of a sequence goes on from where the first one left
off, unless that failed.
-/

namespace PhraseKey

variable {σ α β : Type} {state left : σ}

theorem run_bind_of_ok {first : ExceptT Error (StateM σ) α} {value : α}
    (h : first.run.run state = (.ok value, left)) (next : α → ExceptT Error (StateM σ) β) :
    (first >>= next).run.run state = (next value).run.run left := by
  change ExceptT.bindCont next (first.run.run state).1 (first.run.run state).2 = _
  rw [h]
  rfl

/-- What a failure left is final. -/
theorem run_bind_of_error {first : ExceptT Error (StateM σ) α} {error : Error}
    (h : first.run.run state = (.error error, left)) (next : α → ExceptT Error (StateM σ) β) :
    (first >>= next).run.run state = (.error error, left) := by
  change ExceptT.bindCont next (first.run.run state).1 (first.run.run state).2 = _
  rw [h]
  rfl

theorem exists_of_run_bind_eq_ok {first : ExceptT Error (StateM σ) α}
    {next : α → ExceptT Error (StateM σ) β} {result : β}
    (h : (first >>= next).run.run state = (.ok result, left)) :
    ∃ value middle, first.run.run state = (.ok value, middle) ∧
      (next value).run.run middle = (.ok result, left) := by
  rcases hFirst : first.run.run state with ⟨error | value, middle⟩
  · rw [run_bind_of_error hFirst] at h
    cases h
  · rw [run_bind_of_ok hFirst] at h
    exact ⟨value, middle, rfl, h⟩

end PhraseKey
