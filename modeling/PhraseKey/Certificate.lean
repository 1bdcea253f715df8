import PhraseKey.Key.EncryptionSubkey
import PhraseKey.Key.SigningKey
import PhraseKey.UserId

/-!
Certificates: a primary key with its user id and at most one subkey, and the packet streams they are
passed on in. Key files hold the secret key packet and the user id packet, which every secret stream
starts with.
-/

namespace PhraseKey

structure Certificate where
  key : SigningKey
  userId : UserId
  subkey : Option EncryptionSubkey
  deriving DecidableEq

namespace Certificate

/-- The creation time of the primary key, which is that of all bindings. -/
def created (certificate : Certificate) : Timestamp :=
  certificate.key.created

/-- The certificate of a key file, which has no subkey. Nothing past the user id packet is read. -/
def readKeyFile : Reading Certificate := do
  let key ← SigningKey.read
  let userId ← UserId.read
  Logged.debug ("loaded key " ++ hexUpper key.fingerprint.octets.toList ++ " for " ++ userId.text)
  return ⟨key, userId, none⟩

def keyFile (certificate : Certificate) : Logged (List UInt8) := do
  let key ← certificate.key.secretPacket
  let userId ← certificate.userId.packet
  return key ++ userId

/-- The packet of the user id with its certification, and the given packet of the subkey with its
binding. -/
def bindings (certificate : Certificate)
    (subkeyPacket : EncryptionSubkey → Logged (List UInt8)) : Logged (List UInt8) := do
  let userId ← certificate.userId.packet
  let certification ← certificate.key.bind certificate.userId.bindingTarget certificate.created
  match certificate.subkey with
  | none => return userId ++ certification
  | some subkey =>
    let packet ← subkeyPacket subkey
    let binding ← certificate.key.bind subkey.bindingTarget certificate.created
    return userId ++ certification ++ packet ++ binding

/-- The stream of public packets. -/
def publicBytes (certificate : Certificate) : Logged (List UInt8) := do
  let key ← certificate.key.publicPacket
  let bindings ← certificate.bindings EncryptionSubkey.publicPacket
  return key ++ bindings

/-- The stream of secret packets, with all secrets unprotected. -/
def secretBytes (certificate : Certificate) : Logged (List UInt8) := do
  let key ← certificate.key.secretPacket
  let bindings ← certificate.bindings EncryptionSubkey.secretPacket
  return key ++ bindings

/-- The packet of a detached signature over everything a source yields. -/
def sign (certificate : Certificate) : Reading (List UInt8) :=
  certificate.key.sign

end Certificate

end PhraseKey
