import PhraseKey.Proofs.KeyOfSeed
import PhraseKey.Proofs.SignatureMaking

/-!
What a verifier finds in the octets of a signature. It has only packet bodies and the signed data, and
rebuilds what was hashed from those: the hashed part of a signature ends where the length of its first
area says.
-/

namespace PhraseKey

/-- The signature is of this digest: it shows the first octets, and its integers make up the Ed25519
signature when their leading zeros are restored. -/
structure Signature.IsOf (signature : Signature) (seed : Octets 32) (digest : Octets 32) : Prop where
  digestStart_eq : signature.digestStart.toList = digest.toList.take 2
  value_eq : ∃ r s : Octets 32, signature.value.r.padded 32 = .ok r ∧
    signature.value.s.padded 32 = .ok s ∧
      r.toList ++ s.toList = (Ed25519.sign seed digest.toList).toList

theorem Statement.length_head (statement : Statement) : statement.head.length = 4 := rfl

theorem Statement.isOf_made (statement : Statement) (seed : Octets 32) (data : List UInt8) :
    (statement.made seed data).IsOf seed (Digest.Sha256.digest (statement.preimage data)) :=
  ⟨rfl, SignatureValue.padded_ofOctets _⟩

/-- A signature starts with what is hashed of it. -/
theorem Signature.take_encode (signature : Signature) :
    signature.encode.take signature.statement.hashedLength = signature.statement.hashedPart := by
  have hOctets : signature.encode = signature.statement.hashedPart ++
      (Subpacket.encodeArea signature.statement.unhashed ++ signature.digestStart.toList ++
        signature.value.encode) := by
    simp [encode, Statement.hashedPart]
  rw [hOctets]
  exact List.take_left' signature.statement.length_hashedPart

namespace Verifier

/-- The octets of a signature up to the end of its hashed area. -/
def hashedPart (body : List UInt8) : List UInt8 :=
  body.take (6 + ofBigEndian ((body.drop 4).take 2))

/-- The digest that a signature of some data should be of. -/
def digest (data body : List UInt8) : Octets 32 :=
  Digest.Sha256.digest (data ++ hashedPart body ++ 0x04 :: 0xFF :: bigEndian 4 (hashedPart body).length)

/-- The hashed part of a signature is found if its length does not wrap. -/
theorem hashedPart_encode {signature : Signature}
    (hHashed : Subpacket.encodedLengthAll signature.statement.hashed < 65536) :
    hashedPart signature.encode = signature.statement.hashedPart := by
  have hHead : signature.encode = signature.statement.head ++
      (bigEndian 2 (Subpacket.encodedLengthAll signature.statement.hashed) ++
        (Subpacket.encodeAll signature.statement.hashed ++
          (Subpacket.encodeArea signature.statement.unhashed ++ signature.digestStart.toList ++
            signature.value.encode))) := by
    simp [Signature.encode, Subpacket.encodeArea]
  have hArea : (signature.encode.drop 4).take 2 =
      bigEndian 2 (Subpacket.encodedLengthAll signature.statement.hashed) := by
    rw [hHead, List.drop_left' signature.statement.length_head]
    exact List.take_left' (length_bigEndian ..)
  have hLength : ofBigEndian ((signature.encode.drop 4).take 2) =
      Subpacket.encodedLengthAll signature.statement.hashed := by
    rw [hArea, ofBigEndian_bigEndian]
    exact Nat.mod_eq_of_lt hHashed
  rw [hashedPart, hLength]
  exact signature.take_encode

/-- What the verifier hashes is what was signed. -/
theorem digest_encode {signature : Signature} (data : List UInt8)
    (hHashed : Subpacket.encodedLengthAll signature.statement.hashed < 65536) :
    digest data signature.encode = Digest.Sha256.digest (signature.statement.preimage data) := by
  rw [digest, hashedPart_encode hHashed]
  rfl

end Verifier

theorem Packet.framed_signature (body : List UInt8) :
    framed ⟨.signature, body⟩ = 0xC2 :: UInt8.ofNat body.length :: body := by
  have hHeader : Tag.signature.headerOctet = 0xC2 := by decide
  rw [framed, PacketHeader.encode, hHeader]
  rfl

namespace SigningKey

theorem fits_signed (key : SigningKey) (data : List UInt8) : (key.signed data).Fits :=
  Statement.fits_made key.seed data (show 6 < 65536 by decide) (show 10 < 65536 by decide)

/-- What is hashed for a document, as it can be seen from the document and the signature. -/
theorem preimage_signed (key : SigningKey) (data : List UInt8) :
    key.documentStatement.preimage data =
      data ++ (key.signed data).encode.take 12 ++ [0x04, 0xFF, 0x00, 0x00, 0x00, 0x0C] := by
  have hLength : key.documentStatement.hashedLength = 12 := rfl
  have hPart : (key.signed data).encode.take 12 = key.documentStatement.hashedPart :=
    (key.signed data).take_encode
  have hTrailer : Statement.trailer 12 = [0x04, 0xFF, 0x00, 0x00, 0x00, 0x0C] := by decide
  rw [hPart, Statement.preimage_eq, Statement.length_hashedPart, hLength, hTrailer]

/-- Every document gets a signature, in a packet that decodes as that signature and nothing else. It
states the current creation time and the current key id, which is the last eight octets of the
fingerprint, and a verifier that pads its integers finds the Ed25519 signature of the digest it computes
from the document and the packet. -/
theorem sign_verifies (key : SigningKey) {data : List UInt8} {source : Source}
    (hData : source.octets = data) (hEnding : source.ending = .endOfData) :
    ∃ body signature fingerprint,
      (key.sign.run source).1.outcome = .ok (0xC2 :: UInt8.ofNat body.length :: body) ∧
      body.length < 192 ∧
      Signature.decode body = .ok signature ∧
      signature.statement.type.id = 0x00 ∧
      signature.statement.keyAlgorithm.id = 22 ∧
      signature.statement.hash.id = 8 ∧
      signature.statement.hashed = [.creationTime key.created] ∧
      signature.statement.unhashed = [.issuer key.keyId] ∧
      (PublicKey.mk key.created .ed25519 (Ed25519.publicKey key.seed)).fingerprint =
        .ok fingerprint ∧
      key.keyId = fingerprint.keyId ∧
      key.keyId.octets.toList = fingerprint.octets.toList.drop 12 ∧
      signature.IsOf key.seed (Digest.Sha256.digest
        (data ++ body.take 12 ++ [0x04, 0xFF, 0x00, 0x00, 0x00, 0x0C])) := by
  subst hData
  have hOutcome := key.outcome_sign hEnding
  rw [Packet.framed_signature] at hOutcome
  have hLength := key.encodedLength_signed_le source.octets
  rw [← Signature.length_encode] at hLength
  have hDecode := Signature.decode_encode (key.fits_signed source.octets)
  rw [key.asRead_signed] at hDecode
  have hFingerprint := key.fingerprint_eq
  rw [key.publicKey_eq] at hFingerprint
  refine ⟨(key.signed source.octets).encode, key.signed source.octets, key.fingerprint,
    hOutcome, by omega, hDecode, rfl, rfl, rfl, rfl, rfl, hFingerprint, rfl, rfl, ?_⟩
  rw [← key.preimage_signed source.octets]
  exact Statement.isOf_made key.documentStatement key.seed source.octets

/-- The document may come in pieces. -/
theorem sign_verifies_pieces :
    ∃ body signature,
      (zero.sign.run ⟨[.piece 0x61 [0x62], .interruption, .piece 0x63 []], .endOfData⟩).1.outcome =
        .ok (0xC2 :: UInt8.ofNat body.length :: body) ∧
      Signature.decode body = .ok signature ∧
      signature.IsOf zeroSeed (Digest.Sha256.digest
        ([0x61, 0x62, 0x63] ++ body.take 12 ++ [0x04, 0xFF, 0x00, 0x00, 0x00, 0x0C])) := by
  obtain ⟨body, signature, _, hOutcome, -, hDecode, -, -, -, -, -, -, -, -, hIsOf⟩ :=
    zero.sign_verifies
      (show Source.octets ⟨[.piece 0x61 [0x62], .interruption, .piece 0x63 []], .endOfData⟩ =
        [0x61, 0x62, 0x63] from rfl) rfl
  exact ⟨body, signature, hOutcome, hDecode, hIsOf⟩

end SigningKey

end PhraseKey
