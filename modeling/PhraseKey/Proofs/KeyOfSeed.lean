import PhraseKey.Key.EncryptionSubkey
import PhraseKey.Key.SigningKey

/-!
Which key a seed has. A key is determined by its secret and its creation time, so it can be made again
from them, and the seed of zeros has a key of either kind.
-/

namespace PhraseKey

namespace SigningKey

/-- The public part follows from the seed and the creation time. -/
theorem publicKey_eq (key : SigningKey) :
    key.publicKey = ⟨key.created, .ed25519, Ed25519.publicKey key.seed⟩ := by
  rw [← key.curve_eq, ← key.point_eq]
  rfl

/-- A key can be made again from its seed and creation time. -/
theorem ofSeed_seed (key : SigningKey) : ofSeed key.seed key.created = .ok key := by
  have hPublic := key.publicKey_eq
  have hFingerprint := key.fingerprint_eq
  rw [hPublic] at hFingerprint
  rw [ofSeed, Outcome.attach_of_ok hFingerprint]
  exact congrArg Except.ok (ext rfl hPublic.symm)

/-- The log aside, a seed makes the key it has. -/
theorem outcome_fromSeed (seed : Octets 32) (created : Timestamp) :
    (fromSeed seed created).outcome = ofSeed seed created := by
  cases h : ofSeed seed created with
  | error error =>
      rw [fromSeed, h]
      rfl
  | ok key =>
      rw [fromSeed, h]
      rfl

end SigningKey

namespace EncryptionSubkey

/-- The public part follows from the secret and the creation time. -/
theorem publicKey_eq (key : EncryptionSubkey) :
    key.publicKey = ⟨key.created, .curve25519, X25519.publicKey key.secret⟩ := by
  rw [← key.curve_eq, ← key.point_eq]
  rfl

/-- A subkey can be made again from any seed that its secret is the clamped form of. -/
theorem ofSeed_of_clamp (key : EncryptionSubkey) {seed : Octets 32}
    (hSecret : Curve25519.clamp seed = key.secret) : ofSeed seed key.created = .ok key := by
  have hPublic := key.publicKey_eq
  have hFingerprint := key.fingerprint_eq
  rw [hPublic, ← hSecret] at hFingerprint
  rw [ofSeed, Outcome.attach_of_ok hFingerprint]
  refine congrArg Except.ok (ext hSecret ?_)
  rw [hPublic, ← hSecret]

/-- That includes the secret, which clamping does not change. -/
theorem ofSeed_secret (key : EncryptionSubkey) : ofSeed key.secret key.created = .ok key :=
  key.ofSeed_of_clamp key.clamp_secret

theorem outcome_fromSeed (seed : Octets 32) (created : Timestamp) :
    (fromSeed seed created).outcome = ofSeed seed created := by
  cases h : ofSeed seed created with
  | error error =>
      rw [fromSeed, h]
      rfl
  | ok key =>
      rw [fromSeed, h]
      rfl

end EncryptionSubkey

/-- The seed of zeros. -/
def zeroSeed : Octets 32 :=
  ⟨List.replicate 32 0, List.length_replicate⟩

namespace SigningKey

def zeroFingerprint : Fingerprint :=
  ⟨⟨[0xE8, 0xA7, 0x21, 0x40, 0x50, 0x84, 0x0F, 0xA0, 0x96, 0x1A,
    0x5E, 0xF6, 0x40, 0x4F, 0x20, 0x88, 0x8A, 0x9A, 0x3C, 0xB5], rfl⟩⟩

end SigningKey

namespace EncryptionSubkey

def zeroFingerprint : Fingerprint :=
  ⟨⟨[0x37, 0x33, 0xD3, 0x3E, 0x9C, 0xB2, 0x13, 0x0E, 0x14, 0x9F,
    0x71, 0xF4, 0xC4, 0x5F, 0xA6, 0x9D, 0xBE, 0xD9, 0x33, 0x4D], rfl⟩⟩

end EncryptionSubkey

/-- Neither key of the seed of zeros is taken for half of a collision. Both are evaluated at once,
because the disturbances to look for are the same. -/
theorem digest?_zeroSeed :
    Digest.Sha1.digest? (PublicKey.mk .epoch .ed25519 (Ed25519.publicKey zeroSeed)).preimage =
        some SigningKey.zeroFingerprint.octets ∧
      Digest.Sha1.digest? (PublicKey.mk .epoch .curve25519
          (X25519.publicKey (Curve25519.clamp zeroSeed))).preimage =
        some EncryptionSubkey.zeroFingerprint.octets := by
  decide +kernel

theorem PublicKey.fingerprint_of_digest? {key : PublicKey} {fingerprint : Fingerprint}
    (h : Digest.Sha1.digest? key.preimage = some fingerprint.octets) :
    key.fingerprint = .ok fingerprint := by
  rw [PublicKey.fingerprint, Fingerprint.ofPreimage, h]

/-- The primary key of the seed of zeros, made at the epoch. -/
def SigningKey.zero : SigningKey where
  seed := zeroSeed
  publicKey := ⟨.epoch, .ed25519, Ed25519.publicKey zeroSeed⟩
  fingerprint := zeroFingerprint
  curve_eq := rfl
  point_eq := rfl
  fingerprint_eq := PublicKey.fingerprint_of_digest? digest?_zeroSeed.1

/-- The subkey of the seed of zeros, made at the epoch. -/
def EncryptionSubkey.zero : EncryptionSubkey where
  secret := Curve25519.clamp zeroSeed
  publicKey := ⟨.epoch, .curve25519, X25519.publicKey (Curve25519.clamp zeroSeed)⟩
  fingerprint := zeroFingerprint
  clamp_secret := Curve25519.clamp_clamp zeroSeed
  curve_eq := rfl
  point_eq := rfl
  fingerprint_eq := PublicKey.fingerprint_of_digest? digest?_zeroSeed.2

end PhraseKey
