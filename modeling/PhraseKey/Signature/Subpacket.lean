import PhraseKey.Fingerprint
import PhraseKey.Signature.KeyFlags
import PhraseKey.Timestamp

/-!
The statements inside a signature. Each is a subpacket: a length octet, which counts the type and the
body, then the type and the body.
-/

namespace PhraseKey

/-- A subpacket type. -/
inductive SubpacketType where
  | creationTime
  | issuer
  | keyFlags
  | features
  /-- A type that is given by its number, which may be that of a type with a name. -/
  | other (id : UInt8)
  deriving DecidableEq

namespace SubpacketType

def id : SubpacketType → UInt8
  | creationTime => 2
  | issuer => 16
  | keyFlags => 27
  | features => 30
  | other id => id

/-- The type that is found for an id: the one with a name, if there is one. -/
def ofId : UInt8 → SubpacketType
  | 2 => creationTime
  | 16 => issuer
  | 27 => keyFlags
  | 30 => features
  | id => other id

def name : SubpacketType → String
  | creationTime => "SignatureCreationTime"
  | issuer => "Issuer"
  | keyFlags => "KeyFlags"
  | features => "Features"
  | other id => "Other(" ++ toString id.toNat ++ ")"

end SubpacketType

/-- A single statement of a signature. -/
inductive Subpacket where
  /-- When the signature was made. -/
  | creationTime (time : Timestamp)
  /-- Who made the signature. -/
  | issuer (id : KeyId)
  | keyFlags (flags : KeyFlags)
  | features (supported : Features)
  deriving DecidableEq

namespace Subpacket

def type : Subpacket → SubpacketType
  | creationTime _ => .creationTime
  | issuer _ => .issuer
  | keyFlags _ => .keyFlags
  | features _ => .features

def body : Subpacket → List UInt8
  | creationTime time => time.encode
  | issuer id => id.octets.toList
  | keyFlags flags => [flags.octet]
  | features supported => [supported.octet]

def bodyLength : Subpacket → Nat
  | creationTime _ => Timestamp.encodedLength
  | issuer _ => 8
  | keyFlags _ => 1
  | features _ => 1

/-- Bodies are short enough for a single length octet. -/
def encode (subpacket : Subpacket) : List UInt8 :=
  UInt8.ofNat (1 + subpacket.bodyLength) :: subpacket.type.id :: subpacket.body

def encodedLength (subpacket : Subpacket) : Nat :=
  2 + subpacket.bodyLength

@[simp]
theorem length_body (subpacket : Subpacket) : subpacket.body.length = subpacket.bodyLength := by
  cases subpacket <;> simp [body, bodyLength]

@[simp]
theorem length_encode (subpacket : Subpacket) :
    subpacket.encode.length = subpacket.encodedLength := by
  simp [encode, encodedLength]
  omega

/-- The length octet never wraps. -/
theorem bodyLength_le (subpacket : Subpacket) : subpacket.bodyLength ≤ 8 := by
  cases subpacket <;> simp [bodyLength, Timestamp.encodedLength]

def text (subpacket : Subpacket) : String :=
  let value := match subpacket with
    | creationTime time => time.text
    | issuer id => id.text
    | keyFlags flags => flags.text
    | features supported => supported.text
  subpacket.type.name ++ "(" ++ value ++ ")"

/-- The first creation time among the statements. -/
def creationTime? (subpackets : List Subpacket) : Option Timestamp :=
  subpackets.findSome? fun
    | creationTime time => some time
    | _ => none

/-- The first issuer among the statements. -/
def issuer? (subpackets : List Subpacket) : Option KeyId :=
  subpackets.findSome? fun
    | issuer id => some id
    | _ => none

/-- The octets of a list of statements, one after another. -/
def encodeAll (subpackets : List Subpacket) : List UInt8 :=
  subpackets.flatMap encode

def encodedLengthAll : List Subpacket → Nat
  | [] => 0
  | subpacket :: rest => subpacket.encodedLength + encodedLengthAll rest

@[simp]
theorem length_encodeAll (subpackets : List Subpacket) :
    (encodeAll subpackets).length = encodedLengthAll subpackets :=
  length_flatMap_of_cons length_encode rfl (fun _ _ => rfl) subpackets

/-- A list of statements behind its length in two octets. Longer areas keep the lowest 16 bits of
their length. -/
def encodeArea (subpackets : List Subpacket) : List UInt8 :=
  bigEndian 2 (encodedLengthAll subpackets) ++ encodeAll subpackets

@[simp]
theorem length_encodeArea (subpackets : List Subpacket) :
    (encodeArea subpackets).length = 2 + encodedLengthAll subpackets := by
  simp [encodeArea]

end Subpacket

end PhraseKey
