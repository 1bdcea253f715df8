import PhraseKey.Key.SecretKey
import PhraseKey.Signature

/-!
The primary key: it certifies the user id and the subkey, and signs documents. The fingerprint depends
on the creation time, and both change together.
-/

namespace PhraseKey

/-- A primary key. Its point and its fingerprint follow from the seed and the creation time. -/
structure SigningKey where
  seed : Octets 32
  publicKey : PublicKey
  fingerprint : Fingerprint
  curve_eq : publicKey.curve = .ed25519
  point_eq : publicKey.point = Ed25519.publicKey seed
  fingerprint_eq : publicKey.fingerprint = .ok fingerprint

namespace SigningKey

/-- Nothing but the seed and the public part tells keys apart. -/
@[ext]
theorem ext {a b : SigningKey} (seed : a.seed = b.seed) (publicKey : a.publicKey = b.publicKey) :
    a = b := by
  obtain ⟨_, _, _, _, _, first⟩ := a
  obtain ⟨_, _, _, _, _, second⟩ := b
  cases seed
  cases publicKey
  cases first.symm.trans second
  rfl

instance : DecidableEq SigningKey := fun a b =>
  decidable_of_iff (a.seed = b.seed ∧ a.publicKey = b.publicKey)
    ⟨fun h => ext h.1 h.2, fun h => h ▸ ⟨rfl, rfl⟩⟩

/-- The key of a seed, unless it has no fingerprint. -/
def ofSeed (seed : Octets 32) (created : Timestamp) : Except Error SigningKey :=
  let publicKey : PublicKey := ⟨created, .ed25519, Ed25519.publicKey seed⟩
  (Outcome.attach publicKey.fingerprint).map fun fingerprint =>
    ⟨seed, publicKey, fingerprint.val, rfl, rfl, fingerprint.property⟩

/-- The key of a seed, with its fingerprint in the log. -/
def fromSeed (seed : Octets 32) (created : Timestamp) : Logged SigningKey := do
  let key ← ofSeed seed created
  Logged.debug ("signing key " ++ hexUpper key.fingerprint.octets.toList)
  return key

def created (key : SigningKey) : Timestamp :=
  key.publicKey.created

/-- The key at another creation time, unless it has no fingerprint then. -/
def recreate (key : SigningKey) (created : Timestamp) : Except Error SigningKey :=
  let publicKey := { key.publicKey with created := created }
  (Outcome.attach publicKey.fingerprint).map fun fingerprint =>
    ⟨key.seed, publicKey, fingerprint.val, key.curve_eq, key.point_eq, fingerprint.property⟩

/-- Change the creation time. The key stays as it is if it would have no fingerprint. -/
def setCreated (key : SigningKey) (created : Timestamp) : Except Error Unit × SigningKey :=
  let changed := key.recreate created
  (changed.map fun _ => (), changed.toOption.getD key)

def keyId (key : SigningKey) : KeyId :=
  key.fingerprint.keyId

/-- The seed as it is stored. -/
def secretKey (key : SigningKey) : SecretKey :=
  ⟨key.publicKey, .ofOctets key.seed.toList⟩

def publicPacket (key : SigningKey) : Logged (List UInt8) :=
  Packet.encode .publicKey key.publicKey.encode

def secretPacket (key : SigningKey) : Logged (List UInt8) := do
  let body ← key.secretKey.encode
  Packet.encode .secretKey body

/-- The key in the next packet of a source. The stored point must be that of the stored seed. -/
def read : Reading SigningKey := do
  let body ← Packet.readTagged .secretKey
  let stored ← SecretKey.decode .ed25519 body
  let seed ← stored.secret.padded 32
  let key ← fromSeed seed stored.publicKey.created
  Reading.ensure (key.publicKey = stored.publicKey) .differingPublicKey
  return key

/-- What a document signature says: that it was made by this key, at the time of its creation. -/
def documentStatement (key : SigningKey) : Statement :=
  .standard .binary [.creationTime key.created] [.issuer key.keyId]

/-- The packet of a detached signature over everything a source yields. -/
def sign (key : SigningKey) : Reading (List UInt8) := do
  let signature ← key.documentStatement.sign key.seed
  Logged.debug ("created detached signature " ++ signature.text)
  signature.toPacket

/-- What a binding says: that it was made by this key at the given time, and what the target asks
for. -/
def bindingStatement (key : SigningKey) (target : BindingTarget) (created : Timestamp) : Statement :=
  .standard target.type (.creationTime created :: target.subpackets) [.issuer key.keyId]

/-- The signature that binds a target to this key. -/
def bindingSignature (key : SigningKey) (target : BindingTarget) (created : Timestamp) :
    Logged Signature := do
  if ¬ target.type.IsBinding then
    Logged.fail (.notBinding target.type)
  (key.bindingStatement target created).bind key.seed key.publicKey.preimage target

/-- The packet that binds a target to this key. -/
def bind (key : SigningKey) (target : BindingTarget) (created : Timestamp) : Logged (List UInt8) := do
  let signature ← key.bindingSignature target created
  signature.toPacket

end SigningKey

end PhraseKey
