import PhraseKey.Algorithm
import PhraseKey.Signature.SignatureType
import PhraseKey.Signature.Subpacket

/-!
Everything a signature says, and the octets of it that are hashed behind the signed data. The hashed
part ends with its own length, so it can be found from the end of what was hashed.
-/

namespace PhraseKey

/-- A signature without its values. Only the hashed statements are protected by it. -/
structure Statement where
  type : SignatureType
  keyAlgorithm : PublicKeyAlgorithm
  hash : HashAlgorithm
  hashed : List Subpacket
  unhashed : List Subpacket
  deriving DecidableEq

namespace Statement

/-- The only version of signatures. -/
def version : UInt8 := 4

/-- A statement with the standard algorithms. -/
def standard (type : SignatureType) (hashed unhashed : List Subpacket) : Statement :=
  ⟨type, .eddsa, .standard, hashed, unhashed⟩

/-- The version, the type and the algorithms. -/
def head (statement : Statement) : List UInt8 :=
  [version, statement.type.id, statement.keyAlgorithm.id, statement.hash.id]

/-- The part of a signature that is hashed. -/
def hashedPart (statement : Statement) : List UInt8 :=
  statement.head ++ Subpacket.encodeArea statement.hashed

def hashedLength (statement : Statement) : Nat :=
  6 + Subpacket.encodedLengthAll statement.hashed

@[simp]
theorem length_hashedPart (statement : Statement) :
    statement.hashedPart.length = statement.hashedLength := by
  simp [hashedPart, hashedLength, head]
  omega

/-- What is hashed last: the version and the length of the hashed part. -/
def trailer (length : Nat) : List UInt8 :=
  version :: 0xFF :: bigEndian 4 length

@[simp]
theorem length_trailer (length : Nat) : (trailer length).length = 6 := by
  simp [trailer]

/-- Hash the hashed part behind some octets. The number is that of the octets this adds. -/
def hashOnto (statement : Statement) (octets : List UInt8) : List UInt8 × Nat :=
  let part := statement.hashedPart
  (octets ++ part, part.length)

/-- All that is hashed for a signature of some data. -/
def preimage (statement : Statement) (data : List UInt8) : List UInt8 :=
  let (hashed, length) := statement.hashOnto data
  hashed ++ trailer length

theorem preimage_eq (statement : Statement) (data : List UInt8) : statement.preimage data =
    data ++ statement.hashedPart ++ trailer statement.hashedPart.length :=
  rfl

/-- The creation time, if the hashed part has one. -/
def created? (statement : Statement) : Option Timestamp :=
  Subpacket.creationTime? statement.hashed

def text (statement : Statement) : String :=
  let list (subpackets : List Subpacket) :=
    "[" ++ ", ".intercalate (subpackets.map Subpacket.text) ++ "]"
  "SignatureConfig \x7b typ: " ++ statement.type.name ++ ", pub_alg: " ++
    statement.keyAlgorithm.name ++ ", hash_alg: " ++ statement.hash.name ++
    ", hashed_subpackets: " ++ list statement.hashed ++ ", unhashed_subpackets: " ++
    list statement.unhashed ++ " \x7d"

end Statement

end PhraseKey
