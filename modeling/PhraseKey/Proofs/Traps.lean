import Mathlib.Data.List.Infix
import PhraseKey.Parser
import PhraseKey.Reading

/-!
Steps that are defined on some inputs only. Such a step does not fail with an error elsewhere: it is a
trap, and the program ends there. Behind the right guards no step is one, and what is done in steps
comes to the same as what is done by functions that are defined everywhere.
-/

namespace PhraseKey

/-- What ends the program. -/
inductive Trap where
  /-- Octets are taken from a buffer that has fewer of them. -/
  | shortBuffer
  /-- An index, or an end of a slice, lies outside. -/
  | outOfRange
  /-- Octets are copied to a place of another size. -/
  | unequalLengths
  /-- A number does not fit into its type. -/
  | overflow
  deriving DecidableEq

namespace Trap

variable {n : Nat}

/-- The first octets of a buffer, and the others. -/
def getOctets (n : Nat) (octets : List UInt8) : Except Trap (Octets n × List UInt8) :=
  if h : n ≤ octets.length then .ok (⟨octets.take n, by simp [h]⟩, octets.drop n)
  else .error .shortBuffer

def index (octets : List UInt8) (i : Nat) : Except Trap UInt8 :=
  match octets[i]? with
  | some octet => .ok octet
  | none => .error .outOfRange

def sliceFrom (octets : List UInt8) (start : Nat) : Except Trap (List UInt8) :=
  if start ≤ octets.length then .ok (octets.drop start) else .error .outOfRange

/-- A slice as a buffer of its own, which must be part of the buffer it shares its octets with. -/
def sliceRef (octets part : List UInt8) : Except Trap (List UInt8) :=
  if part <:+: octets then .ok part else .error .outOfRange

/-- Overwrite everything from the start on, which the octets have to fill. -/
def copyInto (target : Octets n) (start : Nat) (octets : List UInt8) : Except Trap (Octets n) :=
  if hStart : start ≤ n then
    if hLength : octets.length = n - start then
      .ok ⟨target.toList.take start ++ octets, by simp; omega⟩
    else .error .unequalLengths
  else .error .outOfRange

/-- A number that has to fit into its type. -/
def within (size value : Nat) : Except Trap Nat :=
  if value < size then .ok value else .error .overflow

/-- The sum of some numbers, one added after another. -/
def sumWithin (size : Nat) (numbers : List Nat) : Except Trap Nat :=
  numbers.foldlM (fun sum number => within size (sum + number)) 0

def sub (a b : Nat) : Except Trap Nat :=
  if b ≤ a then .ok (a - b) else .error .overflow

theorem index_cons_zero (octet : UInt8) (rest : List UInt8) : index (octet :: rest) 0 = .ok octet := rfl

theorem sliceFrom_of_le {octets : List UInt8} {start : Nat} (h : start ≤ octets.length) :
    sliceFrom octets start = .ok (octets.drop start) :=
  if_pos h

theorem sliceRef_of_infix {octets part : List UInt8} (h : part <:+: octets) :
    sliceRef octets part = .ok part :=
  if_pos h

theorem copyInto_of_length {target : Octets n} {start : Nat} {octets : List UInt8}
    (h : start + octets.length = n) :
    copyInto target start octets = .ok ⟨target.toList.take start ++ octets, by simp; omega⟩ := by
  have hStart : start ≤ n := by omega
  have hLength : octets.length = n - start := by omega
  rw [copyInto, dif_pos hStart, dif_pos hLength]

theorem within_of_lt {size value : Nat} (h : value < size) : within size value = .ok value :=
  if_pos h

/-- If the sum of all numbers fits, those of the first ones do. -/
theorem sumWithin_of_lt {size : Nat} {numbers : List Nat} (h : numbers.foldr (· + ·) 0 < size) :
    sumWithin size numbers = .ok (numbers.foldr (· + ·) 0) := by
  suffices hFrom : ∀ start, start + numbers.foldr (· + ·) 0 < size →
      numbers.foldlM (fun sum number => within size (sum + number)) start =
        .ok (start + numbers.foldr (· + ·) 0) by
    rw [sumWithin, hFrom 0 (by omega), Nat.zero_add]
  clear h
  induction numbers with
  | nil =>
      intro start _
      rfl
  | cons number rest ih =>
      intro start hFits
      rw [List.foldr_cons] at hFits ⊢
      have hFirst : start + number < size := by omega
      rw [List.foldlM_cons, within_of_lt hFirst]
      change rest.foldlM _ (start + number) = _
      rw [ih (start + number) (by omega), Nat.add_assoc]

theorem sub_of_le {a b : Nat} (h : b ≤ a) : sub a b = .ok (a - b) :=
  if_pos h

end Trap

/-- Steps on a state, each of which may fail with an error or be a trap. -/
abbrev Steps (σ : Type) := ExceptT Error (StateT σ (Except Trap))

namespace Steps

variable {σ α β : Type}

/-- Take all steps: what they come to and the state they leave, unless there is a trap. -/
def walk (steps : Steps σ α) (state : σ) : Except Trap (Except Error α × σ) :=
  steps.run.run state

def ofOutcome (outcome : Except Error α) : Steps σ α :=
  ExceptT.mk fun state => .ok (outcome, state)

def fail (error : Error) : Steps σ α :=
  ofOutcome (.error error)

def ensure (condition : Prop) [Decidable condition] (error : Error) : Steps σ Unit :=
  if condition then pure () else fail error

/-- A step that leaves the state as it is. -/
def step (result : Except Trap α) : Steps σ α :=
  ExceptT.mk fun state => result.map fun value => (.ok value, state)

/-- Steps on a buffer of their own. -/
def onBuffer (octets : List UInt8) (steps : Steps (List UInt8) α) : Steps σ α :=
  ExceptT.mk fun state => (steps.walk octets).map fun found => (found.1, state)

/-- What is not done in steps. -/
def ofFunction (function : σ → Except Error α × σ) : Steps σ α :=
  ExceptT.mk fun state => .ok (function state)

theorem walk_bind_of_ok {first : Steps σ α} {state left : σ} {value : α}
    (h : first.walk state = .ok (.ok value, left)) (next : α → Steps σ β) :
    (first >>= next).walk state = (next value).walk left := by
  change (first.walk state >>= fun found => ExceptT.bindCont next found.1 found.2) = _
  rw [h]
  rfl

theorem walk_bind_of_error {first : Steps σ α} {state left : σ} {error : Error}
    (h : first.walk state = .ok (.error error, left)) (next : α → Steps σ β) :
    (first >>= next).walk state = .ok (.error error, left) := by
  change (first.walk state >>= fun found => ExceptT.bindCont next found.1 found.2) = _
  rw [h]
  rfl

/-- The steps never are a trap, and come to what the function does. -/
def Does (steps : Steps σ α) (function : σ → Except Error α × σ) : Prop :=
  ∀ state, steps.walk state = .ok (function state)

theorem does_ofFunction (function : σ → Except Error α × σ) : (ofFunction function).Does function :=
  fun _ => rfl

theorem Does.onBuffer {steps : Steps (List UInt8) α}
    {function : List UInt8 → Except Error α × List UInt8} (h : steps.Does function)
    (octets : List UInt8) :
    (onBuffer octets steps : Steps σ α).Does fun state => ((function octets).1, state) := by
  intro state
  change (steps.walk octets).map _ = _
  rw [h octets]
  rfl

theorem Does.step_bind {result : Except Trap α} {value : α} {next : α → Steps σ β}
    {function : σ → Except Error β × σ} (h : result = .ok value) (hNext : (next value).Does function) :
    (step result >>= next).Does function := by
  subst h
  exact hNext

/-! Steps on a buffer, each guarded by what is left of it. -/

/-- Fail unless there are enough octets left. -/
def ensureRemaining (field : String) (item : Item) : Steps (List UInt8) Unit :=
  ExceptT.mk fun octets =>
    .ok (if octets.length < item.length then .error (.shortField field item) else .ok (), octets)

def get (n : Nat) : Steps (List UInt8) (Octets n) :=
  ExceptT.mk fun octets =>
    (Trap.getOctets n octets).map fun (taken, left) => (.ok taken, left)

def split (field : String) (item : Item) : Steps (List UInt8) (Octets item.length) := do
  ensureRemaining field item
  get item.length

def u8 (field : String) : Steps (List UInt8) UInt8 := do
  let octets ← split field .u8
  return UInt8.ofNat (ofBigEndian octets.toList)

def u16 (field : String) : Steps (List UInt8) UInt16 := do
  let octets ← split field .u16
  return UInt16.ofNat (ofBigEndian octets.toList)

def u32 (field : String) : Steps (List UInt8) UInt32 := do
  let octets ← split field .u32
  return UInt32.ofNat (ofBigEndian octets.toList)

def array (field : String) (n : Nat) : Steps (List UInt8) (Octets n) :=
  split field (.array n)

def take (field : String) (n : Nat) : Steps (List UInt8) (List UInt8) := do
  let octets ← split field (.take n)
  return octets.toList

def tag (field : String) (expected : List UInt8) : Steps (List UInt8) Unit := do
  let found ← split field (.tag expected)
  ensure (found.toList = expected) (.unexpectedField field expected found.toList)

/-- Fail unless the buffer is empty. -/
def finish (error : Error) : Steps (List UInt8) Unit :=
  ExceptT.mk fun octets => .ok (if octets = [] then .ok () else .error error, octets)

/-- Steps that do what parsers do. What follows the first ones has to be right for what they yield. -/
theorem Does.bind {first : Steps (List UInt8) α} {next : α → Steps (List UInt8) β}
    {parser : Parser α} {rest : α → Parser β} (hFirst : first.Does parser.parse)
    (hNext : ∀ octets value left, parser.parse octets = (.ok value, left) →
      (next value).Does (rest value).parse) : (first >>= next).Does (parser >>= rest).parse := by
  intro octets
  have hWalk := hFirst octets
  rcases hParse : parser.parse octets with ⟨error | value, left⟩
  · rw [hParse] at hWalk
    rw [walk_bind_of_error hWalk, Parser.parse_bind_of_error hParse]
  · rw [hParse] at hWalk
    rw [walk_bind_of_ok hWalk, Parser.parse_bind_of_ok hParse]
    exact hNext octets value left hParse left

theorem does_pure (value : α) :
    (pure value : Steps (List UInt8) α).Does (pure value : Parser α).parse :=
  fun _ => rfl

theorem does_fail (error : Error) :
    (fail error : Steps (List UInt8) α).Does (Parser.fail error : Parser α).parse :=
  fun _ => rfl

theorem does_ofOutcome (outcome : Except Error α) :
    (ofOutcome outcome : Steps (List UInt8) α).Does (liftM outcome : Parser α).parse :=
  fun _ => rfl

theorem does_ensure (condition : Prop) [Decidable condition] (error : Error) :
    (ensure condition error).Does (Parser.ensure condition error).parse := by
  rw [ensure, Parser.ensure]
  split
  · exact does_pure ()
  · exact does_fail error

/-- What is ensured may be relied upon. -/
theorem Does.ensure_bind {condition : Prop} [Decidable condition] {error : Error}
    {next : Steps (List UInt8) α} {rest : Parser α} (hNext : condition → next.Does rest.parse) :
    (ensure condition error >>= fun _ => next).Does
      (Parser.ensure condition error >>= fun _ => rest).parse := by
  by_cases holds : condition
  · rw [ensure, if_pos holds, Parser.ensure, if_pos holds]
    exact hNext holds
  · rw [ensure, if_neg holds, Parser.ensure, if_neg holds]
    exact fun _ => rfl

/-- The guard is as strong as what is taken. -/
theorem does_split (field : String) (item : Item) : (split field item).Does (Parser.split field item).parse := by
  intro octets
  by_cases hEnough : item.length ≤ octets.length
  · have hGuard : (ensureRemaining field item).walk octets = .ok (.ok (), octets) := by
      change Except.ok (if octets.length < item.length then _ else _, octets) = _
      rw [if_neg (Nat.not_lt.mpr hEnough)]
    have hGet : (get item.length).walk octets =
        .ok (.ok ⟨octets.take item.length, List.length_take_of_le hEnough⟩, octets.drop item.length) := by
      change Except.map _ (Trap.getOctets item.length octets) = _
      rw [Trap.getOctets, dif_pos hEnough]
      rfl
    rw [split, walk_bind_of_ok hGuard, hGet, Parser.parse_split_of_le hEnough]
  · have hShort : octets.length < item.length := Nat.lt_of_not_le hEnough
    have hGuard : (ensureRemaining field item).walk octets =
        .ok (.error (.shortField field item), octets) := by
      change Except.ok (if octets.length < item.length then _ else _, octets) = _
      rw [if_pos hShort]
    rw [split, walk_bind_of_error hGuard, Parser.parse_split_of_lt hShort]

/-- Without the guard it would be a trap. -/
example : (get 2).walk [0] = .error .shortBuffer := rfl

theorem does_u8 (field : String) : (u8 field).Does (Parser.u8 field).parse :=
  (does_split field .u8).bind fun _ _ _ _ => does_pure _

theorem does_u16 (field : String) : (u16 field).Does (Parser.u16 field).parse :=
  (does_split field .u16).bind fun _ _ _ _ => does_pure _

theorem does_u32 (field : String) : (u32 field).Does (Parser.u32 field).parse :=
  (does_split field .u32).bind fun _ _ _ _ => does_pure _

theorem does_array (field : String) (n : Nat) : (array field n).Does (Parser.array field n).parse :=
  does_split field (.array n)

theorem does_take (field : String) (n : Nat) : (take field n).Does (Parser.take field n).parse :=
  (does_split field (.take n)).bind fun _ _ _ _ => does_pure _

theorem does_tag (field : String) (expected : List UInt8) :
    (tag field expected).Does (Parser.tag field expected).parse :=
  (does_split field (.tag expected)).bind fun _ _ _ _ => does_ensure _ _

theorem does_finish (error : Error) : (finish error).Does (Parser.finish error).parse :=
  fun _ => rfl

end Steps

/-- What a reading comes to and what it leaves, without the log. -/
def Reading.result {α : Type} (reading : Reading α) (source : Source) : Except Error α × Source :=
  ((reading.run source).1.outcome, (reading.run source).2)

namespace Steps

variable {α β : Type}

/-- The same for steps that do what readings do. -/
theorem Does.bind_reading {first : Steps Source α} {next : α → Steps Source β}
    {reading : Reading α} {rest : α → Reading β} (hFirst : first.Does reading.result)
    (hNext : ∀ value, (next value).Does (rest value).result) :
    (first >>= next).Does (reading >>= rest).result := by
  intro source
  have hWalk := hFirst source
  cases hOutcome : (reading.run source).1.outcome with
  | error error =>
      rw [Reading.result, hOutcome] at hWalk
      rw [walk_bind_of_error hWalk, Reading.result, Reading.run_bind_of_error hOutcome]
  | ok value =>
      rw [Reading.result, hOutcome] at hWalk
      rw [walk_bind_of_ok hWalk, Reading.result, Reading.run_bind_of_ok hOutcome]
      exact hNext value _

theorem does_pure_reading (value : α) :
    (pure value : Steps Source α).Does (pure value : Reading α).result :=
  fun _ => rfl

/-- What reads nothing. -/
theorem does_ofLogged {logged : Logged α} {outcome : Except Error α} (h : logged.outcome = outcome) :
    (ofOutcome outcome : Steps Source α).Does (Reading.ofLogged logged).result := by
  subst h
  exact fun _ => rfl

theorem does_ensure_reading (condition : Prop) [Decidable condition] (error : Error) :
    (ensure condition error).Does (Reading.ensure condition error).result := by
  rw [ensure, Reading.ensure]
  split
  · exact does_pure_reading ()
  · exact fun _ => rfl

/-- Nothing has to be done for the log. -/
theorem Does.after_logged {logged : Logged α} {value : α} {steps : Steps Source β}
    {rest : α → Reading β} (h : logged.outcome = .ok value) (hSteps : steps.Does (rest value).result) :
    steps.Does (Reading.ofLogged logged >>= rest).result := by
  intro source
  have hOutcome : ((Reading.ofLogged logged).run source).1.outcome = .ok value := h
  rw [Reading.result, Reading.run_bind_of_ok hOutcome]
  exact hSteps source

end Steps

end PhraseKey
