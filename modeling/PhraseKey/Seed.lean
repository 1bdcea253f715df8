import PhraseKey.Argon2
import PhraseKey.Logged

/-!
From a passphrase to the seeds of the keys. The identity is the salt, so one passphrase gives unrelated
seeds to different identities.
-/

namespace PhraseKey

/-- The seeds of the primary key and of the subkey. -/
structure Seed where
  signing : Octets 32
  encryption : Octets 32
  deriving DecidableEq

namespace Seed

/-- The two halves of a derived value. -/
def ofOctets (octets : Octets (32 + 32)) : Seed :=
  ⟨octets.front, octets.back⟩

def toOctets (seed : Seed) : Octets (32 + 32) :=
  seed.signing.append seed.encryption

theorem toOctets_ofOctets (octets : Octets (32 + 32)) : (ofOctets octets).toOctets = octets :=
  octets.front_append_back

end Seed

namespace Argon2.Cost

/-- Eight passes over one GiB. -/
def standard : Cost := ⟨8, 1024 * 1024⟩

/-- Both costs times the difficulty, if they still fit into 32 bits. -/
def scale? (cost : Cost) (difficulty : UInt32) : Option Cost :=
  let passes := cost.passes.toNat * difficulty.toNat
  let memory := cost.memory.toNat * difficulty.toNat
  if passes < UInt32.size ∧ memory < UInt32.size then some ⟨UInt32.ofNat passes, UInt32.ofNat memory⟩
  else none

end Argon2.Cost

namespace Seed

/-- The seed of a passphrase and an identity, at the given multiple of the cost. -/
def derive (cost : Argon2.Cost) (passphrase identity : List UInt8) (difficulty : UInt32) :
    Logged Seed := do
  if difficulty = 0 then
    Logged.fail .zeroDifficulty
  match cost.scale? difficulty with
  | none => Logged.fail (.costOverflow difficulty)
  | some scaled =>
    Logged.debug ("argon2id: t_cost=" ++ toString scaled.passes.toNat ++ " m_cost=" ++
      toString scaled.memory.toNat ++ "KiB p_cost=1")
    let octets ← (Argon2.derive scaled passphrase identity).mapError Error.argon2
    return ofOctets octets

end Seed

end PhraseKey
