import PhraseKey.Proofs.ValidatedParameters

/-!
Which certificate a passphrase has. It is made of the keys of the derived seeds, and the cheapest
parameters there are have one.
-/

namespace PhraseKey

namespace KeyParams

variable {params : KeyParams} {seed : Seed} {certificate : Certificate}

theorem Makes.outcome_ofSeed (h : params.Makes seed certificate) :
    (params.ofSeed seed).outcome = .ok certificate := by
  cases h with
  | alone unwanted key_eq =>
      rw [ofSeed, Logged.outcome_bind_of_ok ((SigningKey.outcome_fromSeed _ _).trans key_eq),
        if_neg unwanted]
      rfl
  | withSubkey wanted key_eq subkey_eq =>
      rw [ofSeed, Logged.outcome_bind_of_ok ((SigningKey.outcome_fromSeed _ _).trans key_eq),
        if_pos wanted,
        Logged.outcome_bind_of_ok ((EncryptionSubkey.outcome_fromSeed _ _).trans subkey_eq)]
      rfl

theorem makes_of_outcome_ofSeed (h : (params.ofSeed seed).outcome = .ok certificate) :
    params.Makes seed certificate := by
  rcases params.outcome_ofSeed_cases seed with ⟨hFails, -⟩ | ⟨made, hMade, hMakes⟩
  · rw [h] at hFails
    cases hFails
  · obtain rfl := Except.ok.inj (h.symm.trans hMade)
    exact hMakes

/-- A passphrase has the certificate of its seed. -/
theorem outcome_generate_eq_ok_iff :
    params.generate.outcome = .ok certificate ↔
      ∃ seed, (Seed.derive params.cost params.passphrase (Text.toUtf8 params.userId)
        params.difficulty).outcome = .ok seed ∧ params.Makes seed certificate := by
  rw [outcome_generate]
  constructor
  · intro h
    cases hSeed : (Seed.derive params.cost params.passphrase (Text.toUtf8 params.userId)
        params.difficulty).outcome with
    | error error =>
        rw [Logged.outcome_bind_of_error hSeed] at h
        cases h
    | ok seed =>
        rw [Logged.outcome_bind_of_ok hSeed] at h
        exact ⟨seed, rfl, makes_of_outcome_ofSeed h⟩
  · rintro ⟨seed, hSeed, hMakes⟩
    rw [Logged.outcome_bind_of_ok hSeed]
    exact hMakes.outcome_ofSeed

/-- The shortest user id, the lowest costs and a subkey. -/
def cheapest : KeyParams :=
  ⟨"aaaaaaaa", [0x61], 1, .epoch, true, false, ⟨1, 8⟩⟩

end KeyParams

/-- The seed of the cheapest parameters. -/
def Seed.cheapest : Seed where
  signing := ⟨[
    0xEE, 0xCD, 0xE2, 0x9C, 0x78, 0x13, 0x8E, 0x99, 0x5A, 0x1A, 0x41, 0xF3, 0x5F, 0x3C, 0x48, 0x01,
    0xD0, 0x9A, 0x08, 0xA5, 0x23, 0x60, 0x0F, 0x15, 0xA3, 0x5C, 0xEA, 0xFB, 0xB9, 0xA5, 0x8F, 0x2D],
    rfl⟩
  encryption := ⟨[
    0x12, 0x8F, 0x13, 0xD6, 0xAE, 0x2D, 0x6A, 0x3D, 0xD4, 0x70, 0x5B, 0xD0, 0x11, 0x4D, 0x45, 0x76,
    0xF1, 0x7F, 0x08, 0xEF, 0x20, 0x1D, 0xE4, 0x2A, 0x0C, 0x2A, 0x84, 0x9A, 0x27, 0x87, 0x93, 0x4F],
    rfl⟩

/-- The whole run of eight blocks is evaluated. -/
theorem Argon2.toList_output_cheapest :
    (output ⟨1, 8⟩ [0x61] (List.replicate 8 0x61)).toList = Seed.cheapest.toOctets.toList := by
  decide +kernel

namespace KeyParams

theorem toUtf8_cheapest : Text.toUtf8 cheapest.userId = List.replicate 8 0x61 := by
  decide +kernel

theorem outcome_derive_cheapest : (Seed.derive cheapest.cost cheapest.passphrase
    (Text.toUtf8 cheapest.userId) cheapest.difficulty).outcome = .ok .cheapest := by
  have hOutput : Argon2.output ⟨1, 8⟩ [0x61] (List.replicate 8 0x61) = Seed.cheapest.toOctets :=
    Octets.ext Argon2.toList_output_cheapest
  have hCheck : Argon2.check ⟨1, 8⟩ [0x61] (List.replicate 8 0x61) = .ok () := rfl
  -- The difficulty is one, so the run is the evaluated one with the user id as its salt.
  rw [toUtf8_cheapest]
  change (Seed.derive ⟨1, 8⟩ [0x61] (List.replicate 8 0x61) 1).outcome = _
  rw [Seed.outcome_derive_one, Argon2.derive_eq, hCheck, hOutput]
  rfl

end KeyParams

def SigningKey.cheapestFingerprint : Fingerprint :=
  ⟨⟨[0x8F, 0x11, 0xD9, 0x75, 0xE0, 0xAB, 0x4E, 0x92, 0x57, 0x56,
    0xEB, 0xF8, 0xB0, 0x35, 0x14, 0xC4, 0x71, 0xA6, 0x2A, 0xDF], rfl⟩⟩

def EncryptionSubkey.cheapestFingerprint : Fingerprint :=
  ⟨⟨[0x35, 0xDD, 0x05, 0x96, 0xE6, 0x7A, 0x9C, 0xE4, 0x35, 0x34,
    0x98, 0xD5, 0x7A, 0x37, 0x2C, 0xED, 0xB3, 0x11, 0x53, 0xDB], rfl⟩⟩

/-- Neither of the keys is taken for half of a collision. -/
theorem digest?_cheapest :
    Digest.Sha1.digest?
        (PublicKey.mk .epoch .ed25519 (Ed25519.publicKey Seed.cheapest.signing)).preimage =
      some SigningKey.cheapestFingerprint.octets ∧
    Digest.Sha1.digest? (PublicKey.mk .epoch .curve25519
        (X25519.publicKey (Curve25519.clamp Seed.cheapest.encryption))).preimage =
      some EncryptionSubkey.cheapestFingerprint.octets := by
  decide +kernel

def SigningKey.cheapest : SigningKey where
  seed := Seed.cheapest.signing
  publicKey := ⟨.epoch, .ed25519, Ed25519.publicKey Seed.cheapest.signing⟩
  fingerprint := cheapestFingerprint
  curve_eq := rfl
  point_eq := rfl
  fingerprint_eq := PublicKey.fingerprint_of_digest? digest?_cheapest.1

def EncryptionSubkey.cheapest : EncryptionSubkey where
  secret := Curve25519.clamp Seed.cheapest.encryption
  publicKey := ⟨.epoch, .curve25519,
    X25519.publicKey (Curve25519.clamp Seed.cheapest.encryption)⟩
  fingerprint := cheapestFingerprint
  clamp_secret := Curve25519.clamp_clamp Seed.cheapest.encryption
  curve_eq := rfl
  point_eq := rfl
  fingerprint_eq := PublicKey.fingerprint_of_digest? digest?_cheapest.2

/-- The certificate of the cheapest parameters. -/
def Certificate.cheapest : Certificate :=
  ⟨.cheapest, KeyParams.cheapest.certifiedUserId, some .cheapest⟩

theorem KeyParams.outcome_generate_cheapest : cheapest.generate.outcome = .ok .cheapest := by
  have hKey : SigningKey.ofSeed Seed.cheapest.signing cheapest.created = .ok .cheapest :=
    SigningKey.cheapest.ofSeed_seed
  have hSubkey : EncryptionSubkey.ofSeed Seed.cheapest.encryption cheapest.created = .ok .cheapest :=
    EncryptionSubkey.cheapest.ofSeed_of_clamp rfl
  exact outcome_generate_eq_ok_iff.mpr ⟨.cheapest, outcome_derive_cheapest,
    .withSubkey rfl hKey hSubkey⟩

end PhraseKey
