import PhraseKey.Text.Quoted

/-!
Why the parameters of a key cannot be used.
-/

namespace PhraseKey

/-- The shortest user id, as the salt of the derivation. -/
def minUserIdLength : Nat := 8

/-- What is wrong with, or missing from, the parameters of a key. -/
inductive ParameterFault where
  | zeroDifficulty
  | shortUserId (userId : String)
  | longUserId (length : Nat)
  | missingUserId
  | missingPassphrase
  deriving DecidableEq

namespace ParameterFault

private def missing (field : String) : String :=
  "\x60" ++ field ++ "\x60 must be initialized"

def message : ParameterFault → String
  | zeroDifficulty => "difficulty must be at least 1"
  | shortUserId userId =>
    "user id " ++ Text.quoted userId ++ " is shorter than the " ++ toString minUserIdLength ++
      " byte minimum"
  | longUserId length =>
    "user id of " ++ toString length ++ " bytes exceeds the 255 byte packet limit"
  | missingUserId => missing "user_id"
  | missingPassphrase => missing "passphrase"

end ParameterFault

end PhraseKey
