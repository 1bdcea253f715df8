import PhraseKey.Signature
import PhraseKey.Text.Utf8

/-!
User ids. Whether modification detection is advertised is part of the certification of a user id, and
not of its packet.
-/

namespace PhraseKey

/-- A user id: any octets, usually the text of a name and an address. -/
structure UserId where
  id : List UInt8
  detectsModification : Bool
  deriving DecidableEq

namespace UserId

/-- A user id that advertises nothing. -/
def plain (id : List UInt8) : UserId :=
  ⟨id, false⟩

/-- The id as text, with replacement characters for what is not valid UTF-8. -/
def text (userId : UserId) : String :=
  Text.lossy userId.id

def encode (userId : UserId) : List UInt8 :=
  userId.id

def encodedLength (userId : UserId) : Nat :=
  userId.id.length

@[simp]
theorem length_encode (userId : UserId) : userId.encode.length = userId.encodedLength := rfl

def packet (userId : UserId) : Logged (List UInt8) :=
  Packet.encode .userId userId.encode

/-- The user id in the next packet of a source. -/
def read : Reading UserId := do
  let id ← Packet.readTagged .userId
  return .plain id

def maxPreimageLength : Nat := UInt32.size - 1

/-- What stands for a user id in its certification: a prefix, the length in four octets and the id. -/
def preimage (userId : UserId) : Except Error (List UInt8) :=
  if userId.encodedLength ≤ maxPreimageLength then
    .ok (0xB4 :: bigEndian 4 userId.encodedLength ++ userId.encode)
  else
    .error (.oversizedBody userId.encodedLength maxPreimageLength)

/-- The statements of the certification. -/
def subpackets (userId : UserId) : List Subpacket :=
  .keyFlags .signing :: if userId.detectsModification then [.features ⟨true⟩] else []

def bindingTarget (userId : UserId) : BindingTarget :=
  ⟨.certPositive, userId.subpackets, userId.preimage⟩

end UserId

end PhraseKey
