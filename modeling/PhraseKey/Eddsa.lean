import PhraseKey.Curve25519.Ed25519
import PhraseKey.Mpi

/-!
Signatures of message digests. The two halves of an Ed25519 signature are stored as integers, so they
lose their leading zeros.
-/

namespace PhraseKey

/-- The two values of a signature. -/
structure SignatureValue where
  r : Mpi
  s : Mpi
  deriving DecidableEq

namespace SignatureValue

/-- The halves of an Ed25519 signature. -/
def ofOctets (octets : Octets (32 + 32)) : SignatureValue :=
  ⟨.ofOctets octets.front.toList, .ofOctets octets.back.toList⟩

def encode (value : SignatureValue) : List UInt8 :=
  encodeMpis [value.r, value.s]

def encodedLength (value : SignatureValue) : Nat :=
  encodedMpisLength [value.r, value.s]

@[simp]
theorem length_encode (value : SignatureValue) : value.encode.length = value.encodedLength := by
  simp [encode, encodedLength]

end SignatureValue

namespace Eddsa

/-- Shorter digests are too weak for the curve. -/
def minDigestBits : Nat := 256

/-- Sign a digest. The hash must be known, the digest must have its size, and the size must do. -/
def sign (seed : Octets 32) (hash : HashAlgorithm) (digest : List UInt8) :
    Except Error SignatureValue :=
  match hash.digestSize? with
  | none => .error (.unknownDigestSize hash)
  | some size =>
    if digest.length ≠ size then .error (.unexpectedDigestLength hash size digest.length)
    else if size * 8 < minDigestBits then .error (.weakHash hash)
    else .ok (.ofOctets (Ed25519.sign seed digest))

end Eddsa

end PhraseKey
