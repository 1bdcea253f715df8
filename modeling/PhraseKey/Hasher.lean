import PhraseKey.Digest.Sha256
import PhraseKey.Error

/-!
The hash functions that signatures can be made with.
-/

namespace PhraseKey

/-- A hash function with digests of `size` octets, the first two of which signatures show. -/
structure Hasher where
  size : Nat
  digest : List UInt8 → Octets size
  two_le_size : 2 ≤ size

namespace Hasher

def sha256 : Hasher := ⟨32, Digest.Sha256.digest, by decide⟩

end Hasher

/-- SHA-256 is the only one. SHA-1 is known by name and size alone. -/
def HashAlgorithm.hasher : HashAlgorithm → Except Error Hasher
  | sha256 => .ok .sha256
  | hash => .error (.unsupportedHash hash)

theorem HashAlgorithm.hasher_sha256 : sha256.hasher = .ok .sha256 := rfl

/-- A hash with a hasher has a known size, which is that of its digests. -/
theorem HashAlgorithm.digestSize?_of_hasher {hash : HashAlgorithm} {hasher : Hasher}
    (h : hash.hasher = .ok hasher) : hash.digestSize? = some hasher.size := by
  cases hash with
  | sha256 =>
    cases h
    rfl
  | sha1 => cases h
  | other id => cases h

end PhraseKey
