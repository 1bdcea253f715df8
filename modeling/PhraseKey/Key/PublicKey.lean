import PhraseKey.Fingerprint
import PhraseKey.Mpi
import PhraseKey.Timestamp

/-!
The public part of a key: when it was created, its curve and its point. Primary keys and subkeys share
one layout, and only the packet around it tells them apart.
-/

namespace PhraseKey

/-- A version 4 public key on one of the two curves. -/
structure PublicKey where
  created : Timestamp
  curve : Curve
  point : Octets 32
  deriving DecidableEq

namespace PublicKey

/-- The only version of keys. -/
def version : UInt8 := 4

/-- The octet in front of a point in the native encoding of its curve. -/
def nativePoint : UInt8 := 0x40

/-- What follows a point: the key derivation of the agreement curve, and nothing on the other. -/
def derivation : Curve → List UInt8
  | .ed25519 => []
  | .curve25519 => [0x03, 0x01, 0x08, 0x07]

/-- The point as it is stored. -/
def pointMpi (key : PublicKey) : Mpi :=
  .ofOctets (nativePoint :: key.point.toList)

def encode (key : PublicKey) : List UInt8 :=
  version :: key.created.encode ++ key.curve.algorithm.id ::
    UInt8.ofNat key.curve.oid.length :: key.curve.oid ++ key.pointMpi.encode ++ derivation key.curve

def encodedLength (key : PublicKey) : Nat :=
  1 + Timestamp.encodedLength + 1 + (1 + key.curve.oid.length) + key.pointMpi.encodedLength +
    (derivation key.curve).length

@[simp]
theorem length_encode (key : PublicKey) : key.encode.length = key.encodedLength := by
  simp [encode, encodedLength]
  omega

/-- What stands for the key in everything that is hashed: a prefix, the length in two octets and the
public part. -/
def preimage (key : PublicKey) : List UInt8 :=
  0x99 :: bigEndian 2 key.encodedLength ++ key.encode

def fingerprint (key : PublicKey) : Except Error Fingerprint :=
  Fingerprint.ofPreimage key.preimage

/-- The point of a stored value, which must have its prefix and all of its octets. -/
def point? (value : Mpi) : Option (Octets 32) :=
  match value.octets with
  | first :: rest => if first = nativePoint then Octets.ofList? 32 rest else none
  | [] => none

/-- A public key on the given curve. What follows it is left. -/
def parse (curve : Curve) : Parser PublicKey := do
  let found ← Parser.u8 "key version"
  Parser.ensure (found = version) (.unsupportedKeyVersion version found)
  let created ← Parser.u32 "key creation time"
  let algorithm := PublicKeyAlgorithm.ofId (← Parser.u8 "public key algorithm")
  Parser.ensure (algorithm = curve.algorithm) (.unexpectedAlgorithm curve.algorithm algorithm)
  let oidLength ← Parser.u8 "curve oid length"
  Parser.ensure (oidLength.toNat = curve.oid.length)
    (.unexpectedOidLength curve.oid.length oidLength.toNat)
  Parser.tag "curve oid" curve.oid
  let value ← Mpi.parse
  match point? value with
  | none => Parser.fail (.invalidPoint curve)
  | some point =>
    Parser.tag "ecdh kdf parameters" (derivation curve)
    return ⟨⟨created⟩, curve, point⟩

end PublicKey

end PhraseKey
