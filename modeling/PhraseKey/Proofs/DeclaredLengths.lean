import PhraseKey.Proofs.SignatureFraming
import PhraseKey.UserId

/-!
Declared lengths. The length of a value is computed apart from its octets, and what is hashed and framed
has the computed one in it. It is always the length of what is written.
-/

namespace PhraseKey

/-- Every value is written, in as many octets as are declared for it. -/
def DeclaresLength {α : Type} (encode : α → List UInt8) (encodedLength : α → Nat) : Prop :=
  ∀ value, (encode value).length = encodedLength value

/-- A secret key is always written, in the octets that are reserved for it. -/
theorem SecretKey.outcome_encode (key : SecretKey) :
    ∃ octets, key.encode.outcome = .ok octets ∧ octets.length = key.bodyLength :=
  ⟨key.body, rfl, key.length_body⟩

/-- What a statement hashes of itself, and the number that its trailer is made of. -/
theorem Statement.hashOnto_eq (statement : Statement) (octets : List UInt8) :
    ∃ part, statement.hashOnto octets = (octets ++ part, part.length) ∧
      part.length = 6 + Subpacket.encodedLengthAll statement.hashed :=
  ⟨statement.hashedPart, rfl, statement.length_hashedPart⟩

/-- Declared lengths are true lengths. That holds of every value that is written, also of lists of
statements and of integers, of which a signature has two each. The octet in front of a statement counts
its type and its body and does not wrap, the length of a secret key is that of its octets, and what is
said to be hashed of a signature is as long as what is hashed. -/
theorem declared_lengths :
    DeclaresLength Mpi.encode Mpi.encodedLength ∧
    DeclaresLength Timestamp.encode (fun _ => Timestamp.encodedLength) ∧
    DeclaresLength UserId.encode UserId.encodedLength ∧
    DeclaresLength PacketHeader.encode (fun _ => PacketHeader.encodedLength) ∧
    DeclaresLength PublicKey.encode PublicKey.encodedLength ∧
    DeclaresLength Subpacket.encode Subpacket.encodedLength ∧
    DeclaresLength Subpacket.encodeAll Subpacket.encodedLengthAll ∧
    DeclaresLength encodeMpis encodedMpisLength ∧
    DeclaresLength Signature.encode Signature.encodedLength ∧
    (∀ subpacket : Subpacket, subpacket.IsCounted subpacket.encode) ∧
    (∀ key : SecretKey, ∃ octets, key.encode.outcome = .ok octets ∧
      octets.length = key.bodyLength) ∧
    (∀ (statement : Statement) (octets : List UInt8), ∃ part,
      statement.hashOnto octets = (octets ++ part, part.length) ∧
        part.length = 6 + Subpacket.encodedLengthAll statement.hashed) :=
  ⟨Mpi.length_encode, Timestamp.length_encode, UserId.length_encode, PacketHeader.length_encode,
    PublicKey.length_encode, Subpacket.length_encode, Subpacket.length_encodeAll, length_encodeMpis,
    Signature.length_encode, Subpacket.isCounted_encode, SecretKey.outcome_encode,
    Statement.hashOnto_eq⟩

end PhraseKey
