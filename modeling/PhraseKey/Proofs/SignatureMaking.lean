import PhraseKey.Key.SigningKey
import PhraseKey.Proofs.PacketReading
import PhraseKey.Proofs.SignatureReading

/-!
Signatures as they are made. Nothing is left to go wrong in making one: with the one hash there is, a
document is signed if its source ends for good, and a target is bound if its type allows it.
-/

namespace PhraseKey

namespace Reading

variable {α β : Type}

/-- The outcome of what follows a success, on what is left of the source. -/
theorem outcome_bind_of_ok {first : Reading α} {source : Source} {value : α}
    (h : (first.run source).1.outcome = .ok value) (next : α → Reading β) :
    ((first >>= next).run source).1.outcome =
      ((next value).run (first.run source).2).1.outcome := by
  rw [run_bind_of_ok h]

theorem outcome_ofLogged_bind {logged : Logged α} {value : α} (h : logged.outcome = .ok value)
    (next : α → Reading β) (source : Source) :
    ((ofLogged logged >>= next).run source).1.outcome = ((next value).run source).1.outcome := by
  have hRun : ((ofLogged logged).run source).1.outcome = .ok value := h
  exact outcome_bind_of_ok hRun next

theorem outcome_ofExcept_bind {outcome : Except Error α} {value : α} (h : outcome = .ok value)
    (next : α → Reading β) (source : Source) :
    ((ofLogged (.ofExcept outcome) >>= next).run source).1.outcome =
      ((next value).run source).1.outcome :=
  outcome_ofLogged_bind h next source

/-- All octets of a source are read if it ends for good. -/
theorem outcome_toEnd {source : Source} (hEnding : source.ending = .endOfData) :
    (toEnd.run source).1.outcome = .ok source.octets := by
  simp only [run, toEnd, Source.readToEnd, hEnding]
  rfl

/-- What a source fails with, it fails with however much came before. -/
theorem outcome_toEnd_of_failed {source : Source} {failure : Failure}
    (hEnding : source.ending = .failed failure) :
    (toEnd.run source).1.outcome = .error (.io failure) := by
  simp only [run, toEnd, Source.readToEnd, hEnding]
  rfl

end Reading

/-- A digest of the right size for its hash is signed as it is. -/
theorem Eddsa.sign_sha256 (seed : Octets 32) (digest : Octets 32) :
    sign seed .sha256 digest.toList = .ok (.ofOctets (Ed25519.sign seed digest.toList)) := by
  have hSize : HashAlgorithm.sha256.digestSize? = some 32 := rfl
  have hLength : ¬ digest.toList.length ≠ 32 := fun h => h digest.length_toList
  have hStrong : ¬ 32 * 8 < minDigestBits := by decide
  rw [sign, hSize]
  dsimp only
  rw [if_neg hLength, if_neg hStrong]

namespace SignatureValue

/-- Either half has at most the octets it came from. -/
theorem length_ofOctets_le (octets : Octets (32 + 32)) :
    (ofOctets octets).r.octets.length ≤ 32 ∧ (ofOctets octets).s.octets.length ≤ 32 := by
  have hFront := Mpi.length_ofOctets_le octets.front.toList
  have hBack := Mpi.length_ofOctets_le octets.back.toList
  rw [Octets.length_toList] at hFront hBack
  exact ⟨hFront, hBack⟩

/-- The number of zeros that the halves lose. -/
def lostZeros (octets : Octets (32 + 32)) : Nat :=
  Mpi.lostZeros octets.front.toList + Mpi.lostZeros octets.back.toList

theorem lostZeros_add_encodedLength (octets : Octets (32 + 32)) :
    lostZeros octets + (ofOctets octets).encodedLength = 68 := by
  have hFront := Mpi.lostZeros_add_length octets.front.toList
  have hBack := Mpi.lostZeros_add_length octets.back.toList
  rw [Octets.length_toList] at hFront hBack
  simp only [lostZeros, ofOctets, encodedLength, encodedMpisLength, Mpi.encodedLength]
  omega

/-- The halves come back with the leading zeros they lost, and make up the whole. -/
theorem padded_ofOctets (octets : Octets (32 + 32)) :
    ∃ r s : Octets 32, (ofOctets octets).r.padded 32 = .ok r ∧ (ofOctets octets).s.padded 32 = .ok s ∧
      r.toList ++ s.toList = octets.toList := by
  refine ⟨octets.front, octets.back, Mpi.padded_ofOctets _, Mpi.padded_ofOctets _, ?_⟩
  exact congrArg Octets.toList octets.front_append_back

end SignatureValue

namespace Statement

/-- The signature that some data get with this statement. -/
def made (statement : Statement) (seed : Octets 32) (data : List UInt8) : Signature :=
  let digest := Digest.Sha256.digest (statement.preimage data)
  ⟨statement, ⟨digest.toList.take 2, by simp⟩, .ofOctets (Ed25519.sign seed digest.toList)⟩

theorem finish_sha256 {statement : Statement} (hHash : statement.hash = .sha256)
    (seed : Octets 32) (data : List UInt8) :
    statement.finish seed .sha256 data = .ok (statement.made seed data) := by
  have hSign := Eddsa.sign_sha256 seed (Digest.Sha256.digest (statement.preimage data))
  rw [← hHash] at hSign
  rw [finish]
  change Except.bind (Eddsa.sign seed statement.hash
    (Digest.Sha256.digest (statement.preimage data)).toList) _ = _
  rw [hSign]
  rfl

/-- Everything a source yields is signed if the source ends for good. -/
theorem outcome_sign {statement : Statement} (hHash : statement.hash = .sha256) (seed : Octets 32)
    {source : Source} (hEnding : source.ending = .endOfData) :
    ((statement.sign seed).run source).1.outcome = .ok (statement.made seed source.octets) := by
  have hHasher : statement.hash.hasher = .ok .sha256 := by
    rw [hHash, HashAlgorithm.hasher_sha256]
  rw [sign]
  refine (Reading.outcome_ofExcept_bind hHasher _ source).trans ?_
  rw [Reading.outcome_bind_of_ok (Reading.outcome_toEnd hEnding)]
  exact finish_sha256 hHash seed source.octets

/-- A target that is accepted is signed behind the signer. -/
theorem outcome_bind {statement : Statement} (hHash : statement.hash = .sha256) (seed : Octets 32)
    (signer : List UInt8) {target : BindingTarget} {data : List UInt8}
    (hData : target.preimage = .ok data) :
    (statement.bind seed signer target).outcome = .ok (statement.made seed (signer ++ data)) := by
  have hHasher : statement.hash.hasher = .ok .sha256 := by
    rw [hHash, HashAlgorithm.hasher_sha256]
  rw [bind, Logged.outcome_bind_of_ok rfl]
  refine (Logged.outcome_ofExcept_bind hHasher _).trans ?_
  refine (Logged.outcome_ofExcept_bind hData _).trans ?_
  exact finish_sha256 hHash seed (signer ++ data)

/-- Only the statements of a signature can be too long for it to be read back. -/
theorem fits_made {statement : Statement} (seed : Octets 32) (data : List UInt8)
    (hHashed : Subpacket.encodedLengthAll statement.hashed < 65536)
    (hUnhashed : Subpacket.encodedLengthAll statement.unhashed < 65536) :
    (statement.made seed data).Fits := by
  obtain ⟨hR, hS⟩ := SignatureValue.length_ofOctets_le
    (Ed25519.sign seed (Digest.Sha256.digest (statement.preimage data)).toList)
  exact ⟨hHashed, hUnhashed, Nat.lt_of_le_of_lt hR (by omega), Nat.lt_of_le_of_lt hS (by omega)⟩

/-- A signature is read back as what was made if its types and algorithms are the ones that are found
for their ids. -/
theorem asRead_made {statement : Statement} (h : statement.asRead = statement) (seed : Octets 32)
    (data : List UInt8) : (statement.made seed data).asRead = statement.made seed data := by
  change Signature.mk statement.asRead _ _ = _
  rw [h]
  rfl

/-- The two halves that the values of a signature are made from. -/
def madeOctets (statement : Statement) (seed : Octets 32) (data : List UInt8) : Octets (32 + 32) :=
  Ed25519.sign seed (Digest.Sha256.digest (statement.preimage data)).toList

/-- What a signature takes besides its statements, with the zeros that its values lose. -/
theorem lostZeros_add_encodedLength_made (statement : Statement) (seed : Octets 32)
    (data : List UInt8) :
    SignatureValue.lostZeros (statement.madeOctets seed data) +
        (statement.made seed data).encodedLength =
      78 + Subpacket.encodedLengthAll statement.hashed +
        Subpacket.encodedLengthAll statement.unhashed := by
  have hValue := SignatureValue.lostZeros_add_encodedLength (statement.madeOctets seed data)
  change SignatureValue.lostZeros (statement.madeOctets seed data) +
    (4 + 2 + Subpacket.encodedLengthAll statement.hashed + 2 +
      Subpacket.encodedLengthAll statement.unhashed + 2 +
      (SignatureValue.ofOctets (statement.madeOctets seed data)).encodedLength) = _
  omega

theorem encodedLength_made_le (statement : Statement) (seed : Octets 32) (data : List UInt8) :
    (statement.made seed data).encodedLength ≤
      78 + Subpacket.encodedLengthAll statement.hashed +
        Subpacket.encodedLengthAll statement.unhashed := by
  rw [← statement.lostZeros_add_encodedLength_made seed data]
  exact Nat.le_add_left _ _

end Statement

namespace Signature

theorem fits_encode {signature : Signature}
    (hLength : signature.encodedLength ≤ PacketHeader.maxBodyLength) :
    Packet.Fits ⟨.signature, signature.encode⟩ :=
  ⟨show Tag.ofHeaderOctet Tag.signature.headerOctet = _ from rfl, by rwa [length_encode]⟩

theorem outcome_toPacket {signature : Signature}
    (hLength : signature.encodedLength ≤ PacketHeader.maxBodyLength) :
    signature.toPacket.outcome = .ok (Packet.framed ⟨.signature, signature.encode⟩) :=
  Packet.outcome_encode (fits_encode hLength).length_le

end Signature

namespace SigningKey

/-- The signature of some data. -/
def signed (key : SigningKey) (data : List UInt8) : Signature :=
  key.documentStatement.made key.seed data

/-- The signature of a target that is to be hashed as these octets. -/
def bound (key : SigningKey) (target : BindingTarget) (created : Timestamp) (data : List UInt8) :
    Signature :=
  (key.bindingStatement target created).made key.seed (key.publicKey.preimage ++ data)

theorem encodedLengthAll_hashed_bindingStatement (key : SigningKey) (target : BindingTarget)
    (created : Timestamp) :
    Subpacket.encodedLengthAll (key.bindingStatement target created).hashed =
      6 + Subpacket.encodedLengthAll target.subpackets :=
  rfl

theorem encodedLengthAll_unhashed_bindingStatement (key : SigningKey) (target : BindingTarget)
    (created : Timestamp) :
    Subpacket.encodedLengthAll (key.bindingStatement target created).unhashed = 10 :=
  rfl

/-- The two halves that the values of a binding are made from. -/
def boundOctets (key : SigningKey) (target : BindingTarget) (created : Timestamp)
    (data : List UInt8) : Octets (32 + 32) :=
  (key.bindingStatement target created).madeOctets key.seed (key.publicKey.preimage ++ data)

/-- What a binding takes besides the statements that its target asks for. -/
theorem lostZeros_add_encodedLength_bound (key : SigningKey) (target : BindingTarget)
    (created : Timestamp) (data : List UInt8) :
    SignatureValue.lostZeros (key.boundOctets target created data) +
        (key.bound target created data).encodedLength =
      94 + Subpacket.encodedLengthAll target.subpackets := by
  have hLength := Statement.lostZeros_add_encodedLength_made (key.bindingStatement target created)
    key.seed (key.publicKey.preimage ++ data)
  rw [encodedLengthAll_hashed_bindingStatement, encodedLengthAll_unhashed_bindingStatement] at hLength
  rw [boundOctets, bound, hLength]
  omega

theorem encodedLength_bound_le (key : SigningKey) (target : BindingTarget) (created : Timestamp)
    (data : List UInt8) :
    (key.bound target created data).encodedLength ≤
      94 + Subpacket.encodedLengthAll target.subpackets := by
  rw [← key.lostZeros_add_encodedLength_bound target created data]
  exact Nat.le_add_left _ _

theorem fits_bound (key : SigningKey) {target : BindingTarget} (created : Timestamp)
    (data : List UInt8) (hTarget : Subpacket.encodedLengthAll target.subpackets < 65530) :
    (key.bound target created data).Fits := by
  refine Statement.fits_made key.seed (key.publicKey.preimage ++ data) ?_ ?_
  · rw [encodedLengthAll_hashed_bindingStatement]
    omega
  · rw [encodedLengthAll_unhashed_bindingStatement]
    omega

theorem asRead_bound (key : SigningKey) {target : BindingTarget} (created : Timestamp)
    (data : List UInt8) (hType : target.type.IsBinding) :
    (key.bound target created data).asRead = key.bound target created data := by
  refine Statement.asRead_made ?_ key.seed (key.publicKey.preimage ++ data)
  change { key.bindingStatement target created with type := .ofId target.type.id } = _
  rw [hType.ofId_id]
  rfl

theorem outcome_bindingSignature (key : SigningKey) {target : BindingTarget} (created : Timestamp)
    {data : List UInt8} (hType : target.type.IsBinding) (hData : target.preimage = .ok data) :
    (key.bindingSignature target created).outcome = .ok (key.bound target created data) := by
  have hAccepted : ¬ ¬ target.type.IsBinding := fun h => h hType
  rw [bindingSignature, if_neg hAccepted]
  exact Statement.outcome_bind rfl key.seed key.publicKey.preimage hData

/-- The packet of a binding, if its statements leave it short enough. -/
theorem outcome_bind (key : SigningKey) {target : BindingTarget} (created : Timestamp)
    {data : List UInt8} (hType : target.type.IsBinding) (hData : target.preimage = .ok data)
    (hLength : (key.bound target created data).encodedLength ≤ PacketHeader.maxBodyLength) :
    (key.bind target created).outcome =
      .ok (Packet.framed ⟨.signature, (key.bound target created data).encode⟩) := by
  rw [bind, Logged.outcome_bind_of_ok (key.outcome_bindingSignature created hType hData)]
  exact Signature.outcome_toPacket hLength

theorem asRead_signed (key : SigningKey) (data : List UInt8) :
    (key.signed data).asRead = key.signed data :=
  Statement.asRead_made rfl key.seed data

/-- The signature of a document is always short. -/
theorem encodedLength_signed_le (key : SigningKey) (data : List UInt8) :
    (key.signed data).encodedLength ≤ 94 := by
  have hLength := Statement.encodedLength_made_le key.documentStatement key.seed data
  have hHashed : Subpacket.encodedLengthAll key.documentStatement.hashed = 6 := rfl
  have hUnhashed : Subpacket.encodedLengthAll key.documentStatement.unhashed = 10 := rfl
  rwa [hHashed, hUnhashed] at hLength

/-- A document that a source yields to its end is signed. -/
theorem outcome_sign (key : SigningKey) {source : Source} (hEnding : source.ending = .endOfData) :
    (key.sign.run source).1.outcome =
      .ok (Packet.framed ⟨.signature, (key.signed source.octets).encode⟩) := by
  rw [sign, Reading.outcome_bind_of_ok (Statement.outcome_sign rfl key.seed hEnding)]
  refine (Reading.outcome_ofLogged_bind rfl _ _).trans ?_
  have hLength := key.encodedLength_signed_le source.octets
  exact Signature.outcome_toPacket (Nat.le_trans hLength (by decide))

end SigningKey

end PhraseKey
