import PhraseKey.Algorithm
import PhraseKey.Argon2.Cost
import PhraseKey.Armor.Base64
import PhraseKey.KeyParams.Fault
import PhraseKey.Octets
import PhraseKey.Packet.Tag
import PhraseKey.Signature.SignatureType
import PhraseKey.Source.Failure

/-!
Everything that can go wrong, by its cause. Each cause falls into one of four kinds and has one text.
-/

namespace PhraseKey

/-- The four kinds of error. -/
inductive ErrorKind where
  /-- Reading an input failed, or the input was refused. -/
  | input
  /-- What was read is malformed, truncated or not what was expected. -/
  | format
  /-- A packet body does not fit its length octet. -/
  | encoding
  /-- A cryptographic primitive was misconfigured. -/
  | crypto
  deriving DecidableEq

namespace ErrorKind

def title : ErrorKind → String
  | input => "input error"
  | format => "format error"
  | encoding => "encoding error"
  | crypto => "crypto error"

end ErrorKind

/-- What a length-checked read asks for. -/
inductive Item where
  | u8
  | u16
  | u32
  | array (length : Nat)
  | take (length : Nat)
  | tag (expected : List UInt8)
  deriving DecidableEq

namespace Item

/-- The number of octets asked for. -/
def length : Item → Nat
  | u8 => 1
  | u16 => 2
  | u32 => 4
  | array length => length
  | take length => length
  | tag expected => expected.length

def name : Item → String
  | u8 => "U8"
  | u16 => "U16Be"
  | u32 => "U32Be"
  | array length => "Array(" ++ toString length ++ ")"
  | take length => "Take(" ++ toString length ++ ")"
  | tag expected => "Tag(" ++ decimalList expected ++ ")"

end Item

/-- The causes of failure. -/
inductive Error where
  /-- An input could not be had, for a reason only its reader knows. -/
  | unreadable (reason : String)
  | cannotOpen (path reason : String)
  | missingIdentity
  | differingPassphrases
  | invalidParameters (fault : ParameterFault)
  /-- Reading stopped with a failure of the reader. -/
  | io (failure : Failure)
  /-- Fewer octets are left than a field needs. -/
  | shortField (field : String) (item : Item)
  /-- A field with a fixed value has another one. -/
  | unexpectedField (field : String) (expected found : List UInt8)
  | unsupportedHeader (octet : UInt8)
  | truncatedPacket
  | unexpectedPacket (expected found : Tag)
  | oversizedMpi (bits : UInt16)
  | unfittingMpi (length room : Nat)
  | unsupportedKeyVersion (expected found : UInt8)
  | unexpectedAlgorithm (expected found : PublicKeyAlgorithm)
  | unexpectedOidLength (expected found : Nat)
  | invalidPoint (curve : Curve)
  | protectedSecret (expected found : UInt8)
  | differingChecksum (computed stored : UInt16)
  | trailingData
  | differingPublicKey
  | notBinding (type : SignatureType)
  | unknownDigestSize (hash : HashAlgorithm)
  | unexpectedDigestLength (hash : HashAlgorithm) (expected found : Nat)
  | weakHash (hash : HashAlgorithm)
  | emptyStream
  | armorWrappers
  | armorChecksum
  | base64 (cause : Base64.DecodeError)
  /-- A body longer than its length field can say. -/
  | oversizedBody (length limit : Nat)
  | unsupportedHash (hash : HashAlgorithm)
  | zeroDifficulty
  | costOverflow (difficulty : UInt32)
  | argon2 (fault : Argon2.Fault)
  | sha1Collision
  deriving DecidableEq

namespace Error

/-- A reader that ran out of data delivered a truncated packet. Its other failures are failures of
the input. -/
def kind : Error → ErrorKind
  | unreadable _ | cannotOpen _ _ | missingIdentity | differingPassphrases | invalidParameters _ =>
    .input
  | io failure => if failure.kind = .unexpectedEnd then .format else .input
  | oversizedBody _ _ => .encoding
  | unsupportedHash _ | zeroDifficulty | costOverflow _ | argon2 _ | sha1Collision => .crypto
  | _ => .format

private def expectedFound (what expected found : String) : String :=
  what ++ ": expected " ++ expected ++ ", found " ++ found

def message : Error → String
  | unreadable reason => reason
  | cannotOpen path reason => "open " ++ path ++ ": " ++ reason
  | missingIdentity => "must have either -u or -l option"
  | differingPassphrases => "passphrases do not match"
  | invalidParameters fault => fault.message
  | io failure => failure.message
  | shortField field item => field ++ ": reading " ++ item.name
  | unexpectedField field expected found => expectedFound field (hex expected) (hex found)
  | unsupportedHeader octet => "unsupported packet header 0x" ++ hex [octet]
  | truncatedPacket => "packet truncated"
  | unexpectedPacket expected found =>
    "expected a " ++ expected.name ++ " packet, found " ++ found.name
  | oversizedMpi bits => "mpi of " ++ toString bits.toNat ++ " bits is too large"
  | unfittingMpi length room =>
    "mpi of " ++ toString length ++ " bytes does not fit into " ++ toString room ++ " bytes"
  | unsupportedKeyVersion expected found =>
    expectedFound "unsupported key version" (toString expected.toNat) (toString found.toNat)
  | unexpectedAlgorithm expected found =>
    expectedFound "unexpected public key algorithm" expected.name found.name
  | unexpectedOidLength expected found =>
    expectedFound "unexpected curve oid length" (toString expected) (toString found)
  | invalidPoint curve => "invalid " ++ curve.name ++ " point encoding"
  | protectedSecret expected found =>
    expectedFound "protected secret keys are not supported" (toString expected.toNat)
      (toString found.toNat)
  | differingChecksum computed stored =>
    expectedFound "invalid simple checksum" (toString computed.toNat) (toString stored.toNat)
  | trailingData => "trailing data after secret key"
  | differingPublicKey => "stored public key does not match the secret key"
  | notBinding type => type.name ++ " is not a binding signature type"
  | unknownDigestSize hash => "EdDSA signature: invalid hash algorithm: " ++ hash.name
  | unexpectedDigestLength hash expected found =>
    expectedFound ("unexpected digest length for hash algorithm " ++ hash.name) (toString expected)
      (toString found)
  | weakHash hash =>
    "EdDSA signature: hash algorithm " ++ hash.name ++ " is too weak for Ed25519"
  | emptyStream => "can not armor an empty packet stream"
  | armorWrappers => "invalid armor wrappers"
  | armorChecksum => "invalid crc24 checksum"
  | base64 cause => cause.message
  | oversizedBody length limit =>
    "packet body of " ++ toString length ++ " bytes exceeds the " ++ toString limit ++
      " byte length limit"
  | unsupportedHash hash => "hasher " ++ hash.title ++ " is not supported for signatures"
  | zeroDifficulty => "difficulty must be at least 1"
  | costOverflow difficulty =>
    "difficulty " ++ toString difficulty.toNat ++ " overflows the argon2 cost"
  | argon2 fault => fault.message
  | sha1Collision => "SHA1 hash collision detected"

end Error

end PhraseKey
