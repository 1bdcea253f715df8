import PhraseKey.Proofs.BlockGrammar
import PhraseKey.Proofs.Traps

/-!
Armor read in steps. The one octet of a line that is looked at by its index is the first, and only
lines that are not empty get that far, however many of them there are.
-/

namespace PhraseKey.Armor

open Scanner

variable {α β : Type}

/-- Steps of a scanner, which may be traps. -/
abbrev ScanSteps (α : Type) := StateT (List UInt8) (OptionT (Except Trap)) α

namespace ScanSteps

def walk (steps : ScanSteps α) (text : List UInt8) : Except Trap (Option (α × List UInt8)) :=
  (steps.run text).run

/-- What is not done in steps. -/
def ofScanner (scanner : Scanner α) : ScanSteps α :=
  fun text => OptionT.mk (.ok (scanner text))

def step (result : Except Trap α) : ScanSteps α :=
  fun text => OptionT.mk (result.map fun value => some (value, text))

def repeatUpTo (limit : Nat) (steps : ScanSteps α) : ScanSteps (List α) := fun text =>
  match limit with
  | 0 => OptionT.mk (.ok (some ([], text)))
  | limit + 1 => OptionT.mk do
    match ← steps.walk text with
    | none => return some ([], text)
    | some (value, rest) =>
      let more ← (repeatUpTo limit steps).walk rest
      return more.map fun (values, left) => (value :: values, left)

def many (steps : ScanSteps α) : ScanSteps (List α) :=
  fun text => repeatUpTo text.length steps text

/-- The steps never are a trap, and take off what the scanner does. -/
def Scans (steps : ScanSteps α) (scanner : Scanner α) : Prop :=
  ∀ text, steps.walk text = .ok (scanner text)

theorem scans_ofScanner (scanner : Scanner α) : (ofScanner scanner).Scans scanner :=
  fun _ => rfl

theorem scans_pure (value : α) : (pure value : ScanSteps α).Scans (pure value) :=
  fun _ => rfl

theorem Scans.step_bind {result : Except Trap α} {value : α} {next : α → ScanSteps β}
    {scanner : Scanner β} (h : result = .ok value) (hNext : (next value).Scans scanner) :
    (step result >>= next).Scans scanner := by
  subst h
  exact hNext

theorem Scans.bind {first : ScanSteps α} {next : α → ScanSteps β} {scanner : Scanner α}
    {rest : α → Scanner β} (hFirst : first.Scans scanner)
    (hNext : ∀ value, (next value).Scans (rest value)) :
    (first >>= next).Scans (scanner >>= rest) := by
  intro text
  have hWalk := hFirst text
  change (first.walk text >>= fun found => _) = _
  rw [hWalk]
  rcases hScanner : scanner text with _ | ⟨value, left⟩
  · rw [bind_of_none hScanner]
    rfl
  · rw [bind_of_some hScanner]
    exact hNext value left

/-- What holds need not be looked at. -/
theorem Scans.guard_bind {condition : Prop} [Decidable condition] {next : Unit → ScanSteps α}
    {scanner : Scanner α} (holds : condition) (hNext : (next ()).Scans scanner) :
    (guard condition >>= next).Scans scanner := by
  change ((if condition then pure () else failure : ScanSteps Unit) >>= next).Scans scanner
  rw [if_pos holds]
  exact hNext

theorem Scans.to_guard_bind {condition : Prop} [Decidable condition] {steps : ScanSteps α}
    {rest : Unit → Scanner α} (holds : condition) (h : steps.Scans (rest ())) :
    steps.Scans (guard condition >>= rest) := by
  intro text
  rw [bind_of_some (guard_of_pos holds text)]
  exact h text

/-- Each repetition is safe. -/
theorem Scans.repeatUpTo {steps : ScanSteps α} {scanner : Scanner α} (h : steps.Scans scanner)
    (limit : Nat) : (repeatUpTo limit steps).Scans (Scanner.repeatUpTo limit scanner) := by
  induction limit with
  | zero => exact fun _ => rfl
  | succ limit ih =>
      intro text
      have hWalk := h text
      rcases hScanner : scanner text with _ | ⟨value, left⟩
      · rw [hScanner] at hWalk
        change (steps.walk text >>= fun found => _) = _
        rw [hWalk, Scanner.repeatUpTo, hScanner]
        rfl
      · rw [hScanner] at hWalk
        change (steps.walk text >>= fun found => _) = _
        rw [hWalk, Scanner.repeatUpTo, hScanner]
        change ((ScanSteps.repeatUpTo limit steps).walk left >>= fun more => _) = _
        rw [ih left]
        rfl

theorem Scans.many {steps : ScanSteps α} {scanner : Scanner α} (h : steps.Scans scanner) :
    (many steps).Scans (Scanner.many scanner) :=
  fun text => h.repeatUpTo text.length text

end ScanSteps

open ScanSteps

/-- The first octet is looked at once there is one. -/
def bodyLineSteps : ScanSteps (List UInt8) := do
  let line ← ofScanner (span isBase64)
  guard (line ≠ [])
  let first ← step (Trap.index line 0)
  guard (first ≠ Base64.pad)
  ofScanner blankRest
  return line

def envelopeSteps : ScanSteps Envelope := do
  let _ ← ofScanner (before rule)
  let type ← ofScanner firstLine
  let headers ← ofScanner (Scanner.many header)
  ofScanner blankRest
  let lines ← ScanSteps.many bodyLineSteps
  let checksum ← ofScanner (optional checksumText)
  let lastType ← ofScanner lastLine
  return ⟨type, ⟨headers⟩, lines.flatten, checksum, lastType⟩

/-- The text is not consumed. -/
def readSteps : Steps (List UInt8) Block := ExceptT.mk fun text => do
  match ← envelopeSteps.walk text with
  | none => return (.error .armorWrappers, text)
  | some (parts, _) => return (parts.data.map fun data => ⟨parts.type, parts.headers, data⟩, text)

theorem scans_bodyLineSteps : bodyLineSteps.Scans bodyLine := by
  apply (scans_ofScanner _).bind
  intro line
  cases line with
  | nil => exact fun _ => rfl
  | cons first rest =>
      -- The scanner asks once for what the steps ask for before and behind the index.
      by_cases hPad : first = Base64.pad
      · subst hPad
        exact fun _ => rfl
      · have hLine : first :: rest ≠ [] ∧ (first :: rest).head? ≠ some Base64.pad := by
          simpa using hPad
        apply Scans.to_guard_bind hLine
        apply Scans.guard_bind (List.cons_ne_nil first rest)
        apply Scans.step_bind (Trap.index_cons_zero first rest)
        apply Scans.guard_bind hPad
        apply (scans_ofScanner _).bind
        intro _
        exact scans_pure _

theorem scans_envelopeSteps : envelopeSteps.Scans envelope := by
  apply (scans_ofScanner _).bind
  intro _
  apply (scans_ofScanner _).bind
  intro type
  apply (scans_ofScanner _).bind
  intro headers
  apply (scans_ofScanner _).bind
  intro _
  apply scans_bodyLineSteps.many.bind
  intro lines
  apply (scans_ofScanner _).bind
  intro checksum
  apply (scans_ofScanner _).bind
  intro lastType
  exact scans_pure _

theorem does_readSteps : readSteps.Does fun text => ((read text).outcome, text) := by
  intro text
  change (envelopeSteps.walk text >>= fun found => _) = _
  rw [scans_envelopeSteps text]
  rcases hEnvelope : envelope text with _ | ⟨parts, left⟩
  · simp only [outcome_read_of_none hEnvelope]
    rfl
  · simp only [outcome_read_of_some hEnvelope]
    rfl

end PhraseKey.Armor
