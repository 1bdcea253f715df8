import PhraseKey.Digest.Sha1
import PhraseKey.Error

/-!
Fingerprints and key ids. A fingerprint is withheld when it could be that of another key too.
-/

namespace PhraseKey

/-- The last octets of a fingerprint, as signatures name their issuer. -/
structure KeyId where
  octets : Octets 8
  deriving DecidableEq

namespace KeyId

def text (id : KeyId) : String :=
  "KeyId(" ++ hex id.octets.toList ++ ")"

end KeyId

/-- The name of a key: the SHA-1 digest of its public part. -/
structure Fingerprint where
  octets : Octets 20
  deriving DecidableEq

namespace Fingerprint

/-- The fingerprint of an octet string, unless it was built to collide. -/
def ofPreimage (preimage : List UInt8) : Except Error Fingerprint :=
  match Digest.Sha1.digest? preimage with
  | some digest => .ok ⟨digest⟩
  | none => .error .sha1Collision

def keyId (fingerprint : Fingerprint) : KeyId :=
  ⟨Octets.back (m := 12) fingerprint.octets⟩

def text (fingerprint : Fingerprint) : String :=
  "Fingerprint(" ++ hex fingerprint.octets.toList ++ ")"

end Fingerprint

end PhraseKey
