import PhraseKey.Eddsa
import PhraseKey.Hasher
import PhraseKey.Packet
import PhraseKey.Signature.Statement

/-!
Signatures of documents and bindings, and their packets.
-/

namespace PhraseKey

/-- What can be bound to a key: the type and statements of its binding, and the octets that stand for
it in what is hashed. -/
structure BindingTarget where
  type : SignatureType
  subpackets : List Subpacket
  preimage : Except Error (List UInt8)

/-- A signature. -/
structure Signature where
  statement : Statement
  /-- The first octets of the signed digest. -/
  digestStart : Octets 2
  value : SignatureValue
  deriving DecidableEq

namespace Statement

/-- Sign the digest of some data, with the hash that the statement names. -/
def finish (statement : Statement) (seed : Octets 32) (hasher : Hasher) (data : List UInt8) :
    Except Error Signature := do
  let digest := hasher.digest (statement.preimage data)
  let value ← Eddsa.sign seed statement.hash digest.toList
  return ⟨statement, ⟨digest.toList.take 2, by simp [Nat.min_eq_left hasher.two_le_size]⟩, value⟩

/-- Sign everything a source yields. The source is read only if there is a hasher. -/
def sign (statement : Statement) (seed : Octets 32) : Reading Signature := do
  let hasher ← statement.hash.hasher
  let data ← Reading.toEnd
  statement.finish seed hasher data

/-- Sign a binding of a target to the signer, of whose public part the preimage is given. -/
def bind (statement : Statement) (seed : Octets 32) (signer : List UInt8) (target : BindingTarget) :
    Logged Signature := do
  Logged.debug ("signing binding " ++ statement.type.name)
  let hasher ← statement.hash.hasher
  let data ← target.preimage
  statement.finish seed hasher (signer ++ data)

end Statement

namespace Signature

/-- The creation time that is signed, if any. -/
def created? (signature : Signature) : Option Timestamp :=
  signature.statement.created?

/-- The issuer, which is not signed, if any. -/
def issuer? (signature : Signature) : Option KeyId :=
  Subpacket.issuer? signature.statement.unhashed

def encode (signature : Signature) : List UInt8 :=
  signature.statement.head ++ Subpacket.encodeArea signature.statement.hashed ++
    Subpacket.encodeArea signature.statement.unhashed ++ signature.digestStart.toList ++
    signature.value.encode

def encodedLength (signature : Signature) : Nat :=
  4 + 2 + Subpacket.encodedLengthAll signature.statement.hashed + 2 +
    Subpacket.encodedLengthAll signature.statement.unhashed + 2 + signature.value.encodedLength

@[simp]
theorem length_encode (signature : Signature) :
    signature.encode.length = signature.encodedLength := by
  simp [encode, encodedLength, Statement.head]
  omega

def toPacket (signature : Signature) : Logged (List UInt8) :=
  Packet.encode .signature signature.encode

def text (signature : Signature) : String :=
  "Signature \x7b config: " ++ signature.statement.text ++ ", signed_hash_value: " ++
    hex signature.digestStart.toList ++ ", signature: [" ++ signature.value.r.text ++ ", " ++
    signature.value.s.text ++ "] \x7d"

end Signature

end PhraseKey
