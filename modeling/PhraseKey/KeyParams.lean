import PhraseKey.Certificate
import PhraseKey.Seed

/-!
The parameters that determine a key. A draft collects them, with defaults for all but the user id and
the passphrase, and a draft whose values cannot be used is refused before anything is derived.
-/

namespace PhraseKey

/-- Everything that goes into a key. Equal parameters give equal keys. -/
structure KeyParams where
  userId : String
  passphrase : List UInt8
  difficulty : UInt32
  created : Timestamp
  subkey : Bool
  detectsModification : Bool
  cost : Argon2.Cost
  deriving DecidableEq

namespace KeyParams

inductive Parameter where
  | userId
  | passphrase
  | difficulty
  | created
  | subkey
  | detectsModification
  | cost
  deriving DecidableEq

/-- The values that a parameter can be set to. -/
abbrev Parameter.Value : Parameter → Type
  | userId => String
  | passphrase => List UInt8
  | difficulty => UInt32
  | created => Timestamp
  | subkey => Bool
  | detectsModification => Bool
  | cost => Argon2.Cost

/-- A parameter and what it is set to. -/
structure Setting where
  parameter : Parameter
  value : parameter.Value

/-- The parameters that have been set so far. -/
structure Draft where
  userId : Option String := none
  passphrase : Option (List UInt8) := none
  difficulty : Option UInt32 := none
  created : Option Timestamp := none
  subkey : Option Bool := none
  detectsModification : Option Bool := none
  cost : Option Argon2.Cost := none
  deriving DecidableEq

namespace Draft

def empty : Draft := {}

/-- Set a parameter. What it was set to before is lost. -/
def put (draft : Draft) : Setting → Draft
  | ⟨.userId, text⟩ => { draft with userId := some text }
  | ⟨.passphrase, octets⟩ => { draft with passphrase := some octets }
  | ⟨.difficulty, factor⟩ => { draft with difficulty := some factor }
  | ⟨.created, time⟩ => { draft with created := some time }
  | ⟨.subkey, wanted⟩ => { draft with subkey := some wanted }
  | ⟨.detectsModification, advertised⟩ => { draft with detectsModification := some advertised }
  | ⟨.cost, cost⟩ => { draft with cost := some cost }

/-- The draft after these settings, one after another. -/
def ofSettings (settings : List Setting) : Draft :=
  settings.foldl put empty

/-- Whether the values that are set can be used. -/
def check (draft : Draft) : Except ParameterFault Unit := do
  if draft.difficulty = some 0 then
    throw .zeroDifficulty
  match draft.userId with
  | none => return ()
  | some userId =>
    if userId.utf8ByteSize < minUserIdLength then
      throw (.shortUserId userId)
    if PacketHeader.maxBodyLength < userId.utf8ByteSize then
      throw (.longUserId userId.utf8ByteSize)

/-- The parameters of a draft. The values that are set are looked at before any that are missing. -/
def build (draft : Draft) : Except ParameterFault KeyParams := do
  draft.check
  let userId ← draft.userId.elim (throw .missingUserId) pure
  let passphrase ← draft.passphrase.elim (throw .missingPassphrase) pure
  return {
    userId, passphrase
    difficulty := draft.difficulty.getD 1
    created := draft.created.getD .epoch
    subkey := draft.subkey.getD false
    detectsModification := draft.detectsModification.getD false
    cost := draft.cost.getD .standard }

end Draft

/-- The user id of the key. -/
def certifiedUserId (params : KeyParams) : UserId :=
  ⟨Text.toUtf8 params.userId, params.detectsModification⟩

/-- Derive the seeds and make the keys. -/
def generate (params : KeyParams) : Logged Certificate := do
  Logged.debug ("deriving key for " ++ Text.quoted params.userId ++ " at difficulty " ++
    toString params.difficulty.toNat)
  let seed ← Seed.derive params.cost params.passphrase (Text.toUtf8 params.userId) params.difficulty
  let key ← SigningKey.fromSeed seed.signing params.created
  if params.subkey then
    let subkey ← EncryptionSubkey.fromSeed seed.encryption params.created
    return ⟨key, params.certifiedUserId, some subkey⟩
  else
    return ⟨key, params.certifiedUserId, none⟩

/-- The parameters in words, without the passphrase. -/
def text (params : KeyParams) : String :=
  "KeyParams \x7b user_id: " ++ Text.quoted params.userId ++ ", passphrase: .., difficulty: " ++
    toString params.difficulty.toNat ++ ", created: " ++ params.created.text ++ ", subkey: " ++
    toString params.subkey ++ ", enable_mdc: " ++ toString params.detectsModification ++
    ", kdf: KdfParams \x7b time_cost: " ++ toString params.cost.passes.toNat ++ ", memory_cost: " ++
    toString params.cost.memory.toNat ++ " \x7d \x7d"

end KeyParams

end PhraseKey
