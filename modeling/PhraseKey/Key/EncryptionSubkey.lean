import PhraseKey.Curve25519.X25519
import PhraseKey.Key.SecretKey
import PhraseKey.Packet
import PhraseKey.Signature

/-!
The encryption subkey. It signs nothing itself, and the primary key binds it.
-/

namespace PhraseKey

/-- A subkey. Its point and its fingerprint follow from the secret and the creation time. The secret is
kept clamped. -/
structure EncryptionSubkey where
  secret : Octets 32
  publicKey : PublicKey
  fingerprint : Fingerprint
  clamp_secret : Curve25519.clamp secret = secret
  curve_eq : publicKey.curve = .curve25519
  point_eq : publicKey.point = X25519.publicKey secret
  fingerprint_eq : publicKey.fingerprint = .ok fingerprint

namespace EncryptionSubkey

/-- Nothing but the secret and the public part tells subkeys apart. -/
@[ext]
theorem ext {a b : EncryptionSubkey} (secret : a.secret = b.secret)
    (publicKey : a.publicKey = b.publicKey) : a = b := by
  obtain ⟨_, _, _, _, _, _, first⟩ := a
  obtain ⟨_, _, _, _, _, _, second⟩ := b
  cases secret
  cases publicKey
  cases first.symm.trans second
  rfl

instance : DecidableEq EncryptionSubkey := fun a b =>
  decidable_of_iff (a.secret = b.secret ∧ a.publicKey = b.publicKey)
    ⟨fun h => ext h.1 h.2, fun h => h ▸ ⟨rfl, rfl⟩⟩

/-- The subkey of a seed, unless it has no fingerprint. -/
def ofSeed (seed : Octets 32) (created : Timestamp) : Except Error EncryptionSubkey :=
  let secret := Curve25519.clamp seed
  let publicKey : PublicKey := ⟨created, .curve25519, X25519.publicKey secret⟩
  (Outcome.attach publicKey.fingerprint).map fun fingerprint =>
    ⟨secret, publicKey, fingerprint.val, Curve25519.clamp_clamp seed, rfl, rfl,
      fingerprint.property⟩

/-- The subkey of a seed, with its fingerprint in the log. -/
def fromSeed (seed : Octets 32) (created : Timestamp) : Logged EncryptionSubkey := do
  let key ← ofSeed seed created
  Logged.debug ("encryption subkey " ++ hexUpper key.fingerprint.octets.toList)
  return key

def created (key : EncryptionSubkey) : Timestamp :=
  key.publicKey.created

/-- The subkey at another creation time, unless it has no fingerprint then. -/
def recreate (key : EncryptionSubkey) (created : Timestamp) : Except Error EncryptionSubkey :=
  let publicKey := { key.publicKey with created := created }
  (Outcome.attach publicKey.fingerprint).map fun fingerprint =>
    ⟨key.secret, publicKey, fingerprint.val, key.clamp_secret, key.curve_eq, key.point_eq,
      fingerprint.property⟩

/-- Change the creation time. The subkey stays as it is if it would have no fingerprint. -/
def setCreated (key : EncryptionSubkey) (created : Timestamp) :
    Except Error Unit × EncryptionSubkey :=
  let changed := key.recreate created
  (changed.map fun _ => (), changed.toOption.getD key)

def keyId (key : EncryptionSubkey) : KeyId :=
  key.fingerprint.keyId

/-- The secret as it is stored, most significant octet first. -/
def secretKey (key : EncryptionSubkey) : SecretKey :=
  ⟨key.publicKey, .ofOctets key.secret.reverse.toList⟩

def publicPacket (key : EncryptionSubkey) : Logged (List UInt8) :=
  Packet.encode .publicSubkey key.publicKey.encode

def secretPacket (key : EncryptionSubkey) : Logged (List UInt8) := do
  let body ← key.secretKey.encode
  Packet.encode .secretSubkey body

/-- The subkey in the next packet of a source. The stored point must be that of the stored secret,
which need not be clamped. -/
def read : Reading EncryptionSubkey := do
  let body ← Packet.readTagged .secretSubkey
  let stored ← SecretKey.decode .curve25519 body
  let secret ← stored.secret.padded 32
  Logged.debug "X25519 secret restored from mpi"
  let key ← fromSeed secret.reverse stored.publicKey.created
  Reading.ensure (key.publicKey = stored.publicKey) .differingPublicKey
  return key

/-- A subkey is bound by its public part, for encryption. -/
def bindingTarget (key : EncryptionSubkey) : BindingTarget where
  type := .subkeyBinding
  subpackets := [.keyFlags .encryption]
  preimage := .ok key.publicKey.preimage

end EncryptionSubkey

end PhraseKey
