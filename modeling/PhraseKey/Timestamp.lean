import PhraseKey.Octets

/-!
Creation times: whole seconds since the epoch in 32 bits.
-/

namespace PhraseKey

/-- Seconds since 1970-01-01 00:00:00. The epoch itself is the default, so that keys do not depend on
the clock. -/
structure Timestamp where
  seconds : UInt32
  deriving DecidableEq

namespace Timestamp

def epoch : Timestamp := ⟨0⟩

/-- Why a time has no timestamp. -/
inductive OutOfRange where
  | tooFarBack
  | tooFarIntoTheFuture
  deriving DecidableEq

namespace OutOfRange

def message : OutOfRange → String
  | tooFarBack => "time was before 1970-01-01 00:00:00"
  | tooFarIntoTheFuture => "time is more than u32::MAX seconds into the future"

end OutOfRange

def nanosecondsPerSecond : Nat := 1000000000

/-- The timestamp of a time in nanoseconds from the epoch. Fractions of a second are dropped, but a
fraction before the epoch is before the epoch. -/
def ofNanoseconds (time : Int) : Except OutOfRange Timestamp :=
  if time < 0 then .error .tooFarBack
  else
    let seconds := time.toNat / nanosecondsPerSecond
    if seconds < UInt32.size then .ok ⟨UInt32.ofNat seconds⟩ else .error .tooFarIntoTheFuture

/-- The time itself, in nanoseconds from the epoch. -/
def toNanoseconds (timestamp : Timestamp) : Int :=
  timestamp.seconds.toNat * nanosecondsPerSecond

def encode (timestamp : Timestamp) : List UInt8 :=
  bigEndian 4 timestamp.seconds.toNat

def encodedLength : Nat := 4

@[simp]
theorem length_encode (timestamp : Timestamp) : timestamp.encode.length = encodedLength := by
  simp [encode, encodedLength]

def text (timestamp : Timestamp) : String :=
  "Timestamp(" ++ toString timestamp.seconds.toNat ++ ")"

end Timestamp

instance : LE Timestamp := ⟨fun a b => a.seconds ≤ b.seconds⟩

instance : DecidableLE Timestamp :=
  fun a b => inferInstanceAs (Decidable (a.seconds ≤ b.seconds))

end PhraseKey
