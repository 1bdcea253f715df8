/-!
What a run of Argon2id costs, and which costs and inputs it refuses.
-/

namespace PhraseKey.Argon2

/-- The number of passes over the memory, and its size in KiB. -/
structure Cost where
  passes : UInt32
  memory : UInt32
  deriving DecidableEq

/-- Why Argon2id does not run. -/
inductive Fault where
  | memoryTooSmall
  | tooFewPasses
  | passphraseTooLong
  | saltTooShort
  | saltTooLong
  deriving DecidableEq

namespace Fault

def message : Fault → String
  | memoryTooSmall => "memory cost is too small"
  | tooFewPasses => "time cost is too small"
  | passphraseTooLong => "password is too long"
  | saltTooShort => "salt is too short"
  | saltTooLong => "salt is too long"

end Fault

/-- Inputs are hashed behind their lengths, in four octets each. -/
def maxInputLength : Nat := 0xFFFFFFFF

/-- Memory is looked at first, then the passes, then the passphrase, and the salt last. -/
def check (cost : Cost) (passphrase salt : List UInt8) : Except Fault Unit :=
  if cost.memory < 8 then .error .memoryTooSmall
  else if cost.passes < 1 then .error .tooFewPasses
  else if maxInputLength < passphrase.length then .error .passphraseTooLong
  else if salt.length < 8 then .error .saltTooShort
  else if maxInputLength < salt.length then .error .saltTooLong
  else .ok ()

end PhraseKey.Argon2
