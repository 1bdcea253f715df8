import PhraseKey.Error

/-!
The checksum of an unprotected secret.
-/

namespace PhraseKey

/-- The sum of all octets modulo `2 ^ 16`. -/
def checksum (octets : List UInt8) : UInt16 :=
  UInt16.ofNat (octets.foldr (fun octet sum => octet.toNat + sum) 0)

namespace Checksum

/-- Fail unless the stored checksum, most significant octet first, is that of the octets. -/
def verify (stored : Octets 2) (octets : List UInt8) : Except Error Unit :=
  let value := UInt16.ofNat (ofBigEndian stored.toList)
  if value = checksum octets then .ok () else .error (.differingChecksum (checksum octets) value)

end Checksum

end PhraseKey
