import PhraseKey.Logged
import PhraseKey.Source

/-!
Computations that read from a source. What they consumed and logged remains known when they fail.
-/

namespace PhraseKey

/-- A computation that consumes part of a source, logs and may fail. -/
def Reading (α : Type) := Source → Logged α × Source

namespace Reading

def run {α : Type} (reading : Reading α) (source : Source) : Logged α × Source :=
  reading source

/-- Continue after a success, on what is left of the source. -/
def andThen {α β : Type} (first : Reading α) (next : α → Reading β) : Reading β := fun source =>
  let (logged, left) := first source
  match logged.outcome with
  | .error error => (⟨.error error, logged.log⟩, left)
  | .ok value =>
    let (second, remaining) := next value left
    (⟨second.outcome, logged.log ++ second.log⟩, remaining)

instance : Monad Reading where
  pure value := fun source => (pure value, source)
  bind := andThen

instance : LawfulMonad Reading :=
  LawfulMonad.mk' Reading
    (fun reading => by
      funext source
      change andThen reading (fun value left => (pure value, left)) source = reading source
      cases h : reading source with
      | mk logged left =>
        obtain ⟨outcome, log⟩ := logged
        cases outcome <;> simp [andThen, h])
    (fun _ _ => rfl)
    (fun first second third => by
      funext source
      cases outcome : (first source).1.outcome with
      | error error => simp [bind, andThen, outcome]
      | ok value =>
        cases h : (second value (first source).2).1.outcome <;>
          simp [bind, andThen, outcome, h])

variable {α β : Type}

@[simp]
theorem run_pure (value : α) (source : Source) :
    (pure value : Reading α).run source = (pure value, source) := rfl

theorem run_bind_of_ok {first : Reading α} {source : Source} {value : α}
    (h : (first.run source).1.outcome = .ok value) (next : α → Reading β) :
    (first >>= next).run source =
      (⟨((next value).run (first.run source).2).1.outcome,
        (first.run source).1.log ++ ((next value).run (first.run source).2).1.log⟩,
        ((next value).run (first.run source).2).2) := by
  simp only [run] at h
  simp [bind, andThen, run, h]

/-- What a failure consumed and logged is final. -/
theorem run_bind_of_error {first : Reading α} {source : Source} {error : Error}
    (h : (first.run source).1.outcome = .error error) (next : α → Reading β) :
    (first >>= next).run source = (⟨.error error, (first.run source).1.log⟩, (first.run source).2) := by
  simp only [run] at h
  simp [bind, andThen, run, h]

/-- A computation that reads nothing. -/
def ofLogged {α : Type} (logged : Logged α) : Reading α :=
  fun source => (logged, source)

instance : MonadLift Logged Reading where
  monadLift := ofLogged

instance : MonadLift (Except Error) Reading where
  monadLift outcome := ofLogged (.ofExcept outcome)

def fail {α : Type} (error : Error) : Reading α :=
  ofLogged (.fail error)

def ensure (condition : Prop) [Decidable condition] (error : Error) : Reading Unit :=
  if condition then pure () else fail error

/-- Everything that is left of the source, which must end for good. -/
def toEnd : Reading (List UInt8) := fun source =>
  let (result, left) := source.readToEnd
  (.ofExcept (result.mapError .io), left)

end Reading

end PhraseKey
