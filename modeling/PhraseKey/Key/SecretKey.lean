import PhraseKey.Checksum
import PhraseKey.Key.PublicKey
import PhraseKey.Logged

/-!
Secret key bodies: the public part, an octet that says that the secret is not protected, the secret as
an integer, and a checksum of that integer as it is stored.
-/

namespace PhraseKey

/-- A public key with its secret, which nothing here ties to it. -/
structure SecretKey where
  publicKey : PublicKey
  secret : Mpi
  deriving DecidableEq

namespace SecretKey

/-- The octet of a secret that is stored as it is. -/
def unprotected : UInt8 := 0

/-- The octets of the key, of which the public part comes first. -/
def body (key : SecretKey) : List UInt8 :=
  key.publicKey.encode ++ unprotected :: key.secret.encode ++
    bigEndian 2 (checksum key.secret.encode).toNat

def bodyLength (key : SecretKey) : Nat :=
  key.publicKey.encodedLength + 1 + key.secret.encodedLength + 2

@[simp]
theorem length_body (key : SecretKey) : key.body.length = key.bodyLength := by
  simp [body, bodyLength]
  omega

/-- Writing a secret out is worth a warning. -/
def encode (key : SecretKey) : Logged (List UInt8) := do
  Logged.warn "emitting an unprotected secret key"
  return key.body

/-- A secret key on the given curve, and nothing behind it. The checksum is that of the secret as it
would be written again. -/
def parse (curve : Curve) : Parser SecretKey := do
  let publicKey ← PublicKey.parse curve
  let usage ← Parser.u8 "s2k usage"
  Parser.ensure (usage = unprotected) (.protectedSecret unprotected usage)
  let secret ← Mpi.parse
  let stored ← Parser.array "secret key checksum" 2
  Checksum.verify stored secret.encode
  Parser.finish .trailingData
  return ⟨publicKey, secret⟩

/-- A secret key as the whole of an octet string. -/
def decode (curve : Curve) (octets : List UInt8) : Except Error SecretKey :=
  ((parse curve).parse octets).1

end SecretKey

end PhraseKey
