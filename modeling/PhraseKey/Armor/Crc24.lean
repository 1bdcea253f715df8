import PhraseKey.Octets

/-!
CRC-24: the remainder of the data, with 24 bits of a fixed start in front, by a polynomial of degree
24.
-/

namespace PhraseKey.Crc24

/-- The polynomial without its highest term. -/
def polynomial : BitVec 24 := 0x864CFB

/-- The register before the first octet. -/
def initial : BitVec 24 := 0xB704CE

/-- The register multiplied by `x`. -/
def shift (register : BitVec 24) : BitVec 24 :=
  if register.msb then register <<< 1 ^^^ polynomial else register <<< 1

/-- Eight bits more, added at the top. -/
def update (register : BitVec 24) (octet : UInt8) : BitVec 24 :=
  shift (shift (shift (shift (shift (shift (shift (shift
    (register ^^^ octet.toBitVec.setWidth 24 <<< 16))))))))

/-- The register after all octets of the data. -/
def checksum (data : List UInt8) : BitVec 24 :=
  data.foldl update initial

end PhraseKey.Crc24
