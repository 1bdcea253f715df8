/-!
Packet types. A packet header carries the id of one in its low six bits, below two bits that are always
set.
-/

namespace PhraseKey

/-- A packet type. Only the packets of a derived key have names, but any id can be asked for by its
number, also that of a type with a name. -/
inductive Tag where
  | signature
  | secretKey
  | publicKey
  | secretSubkey
  | userId
  | publicSubkey
  | other (id : UInt8)
  deriving DecidableEq

namespace Tag

/-- Ids from 64 on cannot be written in a header, which keeps their low six bits. -/
def id : Tag → UInt8
  | signature => 2
  | secretKey => 5
  | publicKey => 6
  | secretSubkey => 7
  | userId => 13
  | publicSubkey => 14
  | other id => id

def namedIds : List UInt8 := [2, 5, 6, 7, 13, 14]

/-- The tag that is found for an id: the one with a name, if there is one. -/
def ofId : UInt8 → Tag
  | 2 => signature
  | 5 => secretKey
  | 6 => publicKey
  | 7 => secretSubkey
  | 13 => userId
  | 14 => publicSubkey
  | id => other id

def name : Tag → String
  | signature => "Signature"
  | secretKey => "SecretKey"
  | publicKey => "PublicKey"
  | secretSubkey => "SecretSubkey"
  | userId => "UserId"
  | publicSubkey => "PublicSubkey"
  | other id => "Other(" ++ toString id.toNat ++ ")"

@[simp]
theorem id_ofId (id : UInt8) : (ofId id).id = id := by
  unfold ofId
  split <;> rfl

/-- A tag is found for its own id, unless it is a type with a name that was asked for by number. -/
theorem ofId_id_iff {tag : Tag} : ofId tag.id = tag ↔ ∀ id, tag = other id → id ∉ namedIds := by
  cases tag with
  | other id =>
    have h : ofId id = other id ↔ id ∉ namedIds := by
      unfold ofId
      split <;> simp_all [namedIds]
    simpa [Tag.id] using h
  | _ => simp [Tag.id, ofId]

/-- The header octet: both format bits, then the low six bits of the id. -/
def headerOctet (tag : Tag) : UInt8 :=
  0xC0 ||| (tag.id &&& 0x3F)

/-- The tag in an octet, whatever its two format bits are. -/
def ofHeaderOctet (octet : UInt8) : Tag :=
  ofId (octet &&& 0x3F)

/-- Both format bits are set. -/
theorem headerOctet_and (tag : Tag) : tag.headerOctet &&& 0xC0 = 0xC0 := by
  have h : ∀ b : BitVec 8, (0xC0 ||| b &&& 0x3F) &&& 0xC0 = 0xC0 := by decide
  exact UInt8.toBitVec_inj.mp (h tag.id.toBitVec)

/-- Only the low six bits of an id are written. -/
theorem ofHeaderOctet_headerOctet (tag : Tag) :
    ofHeaderOctet tag.headerOctet = ofId (tag.id &&& 0x3F) := by
  have h : ∀ b : BitVec 8, (0xC0 ||| b &&& 0x3F) &&& 0x3F = b &&& 0x3F := by decide
  exact congrArg ofId (UInt8.toBitVec_inj.mp (h tag.id.toBitVec))

end Tag

end PhraseKey
