import PhraseKey.Error

/-!
Outcomes together with the log entries made on the way to them. Entries only ever accumulate, and
they stay when the computation fails later.
-/

namespace PhraseKey

/-- An outcome whose value comes with the fact that it is the outcome. -/
def Outcome.attach {ε α : Type} (outcome : Except ε α) : Except ε { value : α // outcome = .ok value } :=
  match outcome with
  | .error error => .error error
  | .ok value => .ok ⟨value, rfl⟩

theorem Outcome.attach_of_ok {ε α : Type} {outcome : Except ε α} {value : α}
    (h : outcome = .ok value) : attach outcome = .ok ⟨value, h⟩ := by
  subst h
  rfl

theorem Outcome.attach_of_error {ε α : Type} {outcome : Except ε α} {error : ε}
    (h : outcome = .error error) : attach outcome = .error error := by
  subst h
  rfl

/-- There is nothing else that could fail. -/
theorem Outcome.eq_error_of_map_attach {ε α β : Type} {outcome : Except ε α}
    {f : { value : α // outcome = .ok value } → β} {error : ε}
    (h : (attach outcome).map f = .error error) : outcome = .error error := by
  cases outcome with
  | error found =>
      cases h
      rfl
  | ok value => cases h

/-- A sequence has an outcome only if its first part has one. -/
theorem Outcome.exists_of_bind_eq_ok {ε α β : Type} {first : Except ε α} {next : α → Except ε β}
    {result : β} (h : (first >>= next) = .ok result) :
    ∃ value, first = .ok value ∧ next value = .ok result := by
  cases first with
  | error error => cases h
  | ok value => exact ⟨value, rfl, h⟩

inductive LogLevel where
  | debug
  | warn
  deriving DecidableEq

/-- One line of the log. -/
structure LogEntry where
  level : LogLevel
  message : String
  deriving DecidableEq

/-- The outcome of a computation that may fail, and what it logged, in order. -/
structure Logged (α : Type) where
  outcome : Except Error α
  log : List LogEntry

namespace Logged

/-- An outcome that nothing is logged about. -/
def ofExcept {α : Type} (outcome : Except Error α) : Logged α :=
  ⟨outcome, []⟩

def fail {α : Type} (error : Error) : Logged α :=
  ⟨.error error, []⟩

def debug (message : String) : Logged Unit :=
  ⟨.ok (), [⟨.debug, message⟩]⟩

def warn (message : String) : Logged Unit :=
  ⟨.ok (), [⟨.warn, message⟩]⟩

/-- Continue after a success with everything logged so far. A failure is final. -/
def andThen {α β : Type} (first : Logged α) (next : α → Logged β) : Logged β :=
  match first.outcome with
  | .error error => ⟨.error error, first.log⟩
  | .ok value =>
    let second := next value
    ⟨second.outcome, first.log ++ second.log⟩

instance : Monad Logged where
  pure value := ⟨.ok value, []⟩
  bind := andThen

instance : MonadLift (Except Error) Logged where
  monadLift := ofExcept

instance : LawfulMonad Logged :=
  LawfulMonad.mk' Logged
    (fun logged => by
      obtain ⟨outcome, log⟩ := logged
      cases outcome <;> simp [Functor.map, andThen])
    (fun _ _ => rfl)
    (fun first second third => by
      obtain ⟨outcome, log⟩ := first
      cases outcome with
      | error error => rfl
      | ok value => cases h : (second value).outcome <;> simp [bind, andThen, h])

variable {α β : Type}

@[simp]
theorem outcome_pure (value : α) : (pure value : Logged α).outcome = .ok value := rfl

@[simp]
theorem log_pure (value : α) : (pure value : Logged α).log = [] := rfl

theorem outcome_bind (first : Logged α) (next : α → Logged β) :
    (first >>= next).outcome = first.outcome.bind fun value => (next value).outcome := by
  cases h : first.outcome <;> simp [bind, andThen, h, Except.bind]

theorem outcome_bind_of_ok {first : Logged α} {value : α} (h : first.outcome = .ok value)
    (next : α → Logged β) : (first >>= next).outcome = (next value).outcome := by
  simp [outcome_bind, h, Except.bind]

theorem outcome_bind_of_error {first : Logged α} {error : Error} (h : first.outcome = .error error)
    (next : α → Logged β) : (first >>= next).outcome = .error error := by
  simp [outcome_bind, h, Except.bind]

theorem outcome_ofExcept_bind {outcome : Except Error α} {value : α} (h : outcome = .ok value)
    (next : α → Logged β) : (ofExcept outcome >>= next).outcome = (next value).outcome := by
  subst h
  rfl

theorem log_bind_of_ok {first : Logged α} {value : α} (h : first.outcome = .ok value)
    (next : α → Logged β) : (first >>= next).log = first.log ++ (next value).log := by
  simp [bind, andThen, h]

theorem log_bind_of_error {first : Logged α} {error : Error} (h : first.outcome = .error error)
    (next : α → Logged β) : (first >>= next).log = first.log := by
  simp [bind, andThen, h]

/-- What was logged first stays first. -/
theorem log_isPrefix_bind (first : Logged α) (next : α → Logged β) :
    first.log <+: (first >>= next).log := by
  cases h : first.outcome with
  | error error => simp [log_bind_of_error h]
  | ok value => simp [log_bind_of_ok h]

end Logged

end PhraseKey
