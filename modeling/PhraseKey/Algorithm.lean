/-!
The algorithms and curves a key or signature names by octet.
-/

namespace PhraseKey

/-- A public key algorithm. -/
inductive PublicKeyAlgorithm where
  /-- Key agreement on an elliptic curve. -/
  | ecdh
  /-- Edwards curve signatures in the framing of version 4 keys. -/
  | eddsa
  /-- An algorithm that is given by its number, which may be that of one with a name. -/
  | other (id : UInt8)
  deriving DecidableEq

namespace PublicKeyAlgorithm

def id : PublicKeyAlgorithm → UInt8
  | ecdh => 18
  | eddsa => 22
  | other id => id

/-- The algorithm that is found for an id: the one with a name, if there is one. -/
def ofId : UInt8 → PublicKeyAlgorithm
  | 18 => ecdh
  | 22 => eddsa
  | id => other id

def name : PublicKeyAlgorithm → String
  | ecdh => "ECDH"
  | eddsa => "EdDSALegacy"
  | other id => "Unknown(" ++ toString id.toNat ++ ")"

@[simp]
theorem id_ofId (id : UInt8) : (ofId id).id = id := by
  unfold ofId
  split <;> rfl

end PublicKeyAlgorithm

/-- A hash algorithm. -/
inductive HashAlgorithm where
  | sha1
  | sha256
  /-- An algorithm that is given by its number, which may be that of one with a name. -/
  | other (id : UInt8)
  deriving DecidableEq

namespace HashAlgorithm

/-- The hash every signature is made with unless another is named. -/
def standard : HashAlgorithm := sha256

def id : HashAlgorithm → UInt8
  | sha1 => 2
  | sha256 => 8
  | other id => id

/-- The algorithm that is found for an id: the one with a name, if there is one. -/
def ofId : UInt8 → HashAlgorithm
  | 2 => sha1
  | 8 => sha256
  | id => other id

def name : HashAlgorithm → String
  | sha1 => "Sha1"
  | sha256 => "Sha256"
  | other id => "Other(" ++ toString id.toNat ++ ")"

/-- The name as users write it. -/
def title : HashAlgorithm → String
  | sha1 => "SHA1"
  | sha256 => "SHA256"
  | other id => (other id).name

/-- Digest length in octets, for the hashes with a known one. -/
def digestSize? : HashAlgorithm → Option Nat
  | sha1 => some 20
  | sha256 => some 32
  | other _ => none

@[simp]
theorem id_ofId (id : UInt8) : (ofId id).id = id := by
  unfold ofId
  split <;> rfl

end HashAlgorithm

/-- The two curves of a derived key. -/
inductive Curve where
  /-- The signature curve of the primary key. -/
  | ed25519
  /-- The key agreement curve of the subkey. -/
  | curve25519
  deriving DecidableEq

namespace Curve

def name : Curve → String
  | .ed25519 => "Ed25519"
  | .curve25519 => "Curve25519"

/-- The object identifier, without its length. -/
def oid : Curve → List UInt8
  | .ed25519 => [0x2B, 0x06, 0x01, 0x04, 0x01, 0xDA, 0x47, 0x0F, 0x01]
  | .curve25519 => [0x2B, 0x06, 0x01, 0x04, 0x01, 0x97, 0x55, 0x01, 0x05, 0x01]

def algorithm : Curve → PublicKeyAlgorithm
  | .ed25519 => .eddsa
  | .curve25519 => .ecdh

/-- The algorithm of a curve is the one that is found for its id. -/
theorem ofId_algorithm (curve : Curve) :
    PublicKeyAlgorithm.ofId curve.algorithm.id = curve.algorithm := by
  cases curve <;> rfl

end Curve

end PhraseKey
