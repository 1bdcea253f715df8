import PhraseKey.Certificate
import PhraseKey.Proofs.KeyReading
import PhraseKey.Proofs.Verification

/-!
Certificates as others see them: a stream of packets, in which the primary key vouches for the user id
and the subkey. Everything a verifier needs to check that is in the bodies of the packets.
-/

namespace PhraseKey

namespace Verifier

/-- What stands for a key in what is hashed, from the body of its packet. -/
def keyMaterial (body : List UInt8) : List UInt8 :=
  0x99 :: bigEndian 2 body.length ++ body

/-- What stands for a user id in what is hashed, from the body of its packet. -/
def userIdMaterial (body : List UInt8) : List UInt8 :=
  0xB4 :: bigEndian 4 body.length ++ body

/-- The body is a signature of a key over some data. It states the creation time that is in the body of
the key, and names its issuer by the end of the fingerprint of that body. -/
structure Accepts (seed : Octets 32) (key data body : List UInt8) (signature : Signature) : Prop where
  decode_eq : Signature.decode body = .ok signature
  isOf : signature.IsOf seed (digest (keyMaterial key ++ data) body)
  created_eq : ∃ publicKey, (PublicKey.parse .ed25519).parse key = (.ok publicKey, []) ∧
    signature.created? = some publicKey.created
  issuer_eq : ∃ fingerprint id, Fingerprint.ofPreimage (keyMaterial key) = .ok fingerprint ∧
    signature.issuer? = some id ∧ id.octets.toList = fingerprint.octets.toList.drop 12

theorem keyMaterial_encode (key : PublicKey) : keyMaterial key.encode = key.preimage := by
  rw [keyMaterial, PublicKey.length_encode]
  rfl

end Verifier

namespace UserId

theorem fits_packet {id : List UInt8} (hLength : id.length ≤ 255) : Packet.Fits ⟨.userId, id⟩ :=
  ⟨show Tag.ofHeaderOctet Tag.userId.headerOctet = _ from rfl, hLength⟩

theorem outcome_packet {userId : UserId} (hLength : userId.id.length ≤ 255) :
    userId.packet.outcome = .ok (Packet.framed ⟨.userId, userId.id⟩) :=
  Packet.outcome_encode hLength

/-- A user id has octets to be hashed if its length can be written in four. -/
theorem preimage_of_length_lt {userId : UserId} (hLength : userId.id.length < 2 ^ 32) :
    userId.preimage = .ok (Verifier.userIdMaterial userId.id) := by
  have hFits : userId.encodedLength ≤ maxPreimageLength := Nat.le_of_lt_succ hLength
  rw [preimage, if_pos hFits]
  rfl

theorem preimage_of_length_le {userId : UserId} (hLength : userId.id.length ≤ 255) :
    userId.preimage = .ok (Verifier.userIdMaterial userId.id) :=
  preimage_of_length_lt (Nat.lt_of_le_of_lt hLength (by decide))

theorem encodedLengthAll_subpackets_le (userId : UserId) :
    Subpacket.encodedLengthAll userId.bindingTarget.subpackets ≤ 6 := by
  rcases userId with ⟨id, detectsModification⟩
  cases detectsModification with
  | false => exact (show 3 ≤ 6 by decide)
  | true => exact (show 6 ≤ 6 by decide)

end UserId

namespace EncryptionSubkey

theorem encodedLengthAll_subpackets (subkey : EncryptionSubkey) :
    Subpacket.encodedLengthAll subkey.bindingTarget.subpackets = 3 :=
  rfl

theorem outcome_publicPacket (subkey : EncryptionSubkey) :
    subkey.publicPacket.outcome = .ok (Packet.framed ⟨.publicSubkey, subkey.publicKey.encode⟩) :=
  Packet.outcome_encode subkey.publicKey.length_encode_le

end EncryptionSubkey

namespace SigningKey

theorem outcome_publicPacket (key : SigningKey) :
    key.publicPacket.outcome = .ok (Packet.framed ⟨.publicKey, key.publicKey.encode⟩) :=
  Packet.outcome_encode key.publicKey.length_encode_le

/-- The certification of a user id is short, whatever the user id is. -/
theorem encodedLength_bound_userId_lt (key : SigningKey) (userId : UserId) (created : Timestamp)
    (data : List UInt8) : (key.bound userId.bindingTarget created data).encodedLength < 192 := by
  have hLength := key.encodedLength_bound_le userId.bindingTarget created data
  have hTarget := userId.encodedLengthAll_subpackets_le
  omega

theorem encodedLength_bound_subkey_lt (key : SigningKey) (subkey : EncryptionSubkey)
    (created : Timestamp) (data : List UInt8) :
    (key.bound subkey.bindingTarget created data).encodedLength < 192 := by
  have hLength := key.encodedLength_bound_le subkey.bindingTarget created data
  rw [subkey.encodedLengthAll_subpackets] at hLength
  omega

/-- A verifier that takes the target for the same octets accepts its binding. -/
theorem accepts_bound (key : SigningKey) {target : BindingTarget} (data : List UInt8)
    (hType : target.type.IsBinding)
    (hTarget : Subpacket.encodedLengthAll target.subpackets < 65530) :
    Verifier.Accepts key.seed key.publicKey.encode data (key.bound target key.created data).encode
      (key.bound target key.created data) := by
  have hFits := key.fits_bound key.created data hTarget
  have hParse := key.publicKey.reads_encode.parse_eq
  rw [key.curve_eq] at hParse
  have hDecode := Signature.decode_encode hFits
  rw [key.asRead_bound key.created data hType] at hDecode
  refine ⟨hDecode, ?_, ⟨key.publicKey, hParse, rfl⟩,
    ⟨key.fingerprint, key.keyId, ?_, rfl, rfl⟩⟩
  · rw [Verifier.digest_encode _ hFits.hashed_lt, Verifier.keyMaterial_encode]
    exact Statement.isOf_made _ key.seed _
  · rw [Verifier.keyMaterial_encode]
    exact key.fingerprint_eq

end SigningKey

namespace Certificate

/-- The signature by which the primary key vouches for the user id. -/
def certification (certificate : Certificate) : Signature :=
  certificate.key.bound certificate.userId.bindingTarget certificate.created
    (Verifier.userIdMaterial certificate.userId.id)

/-- The signature by which the primary key vouches for a subkey. -/
def subkeyBinding (certificate : Certificate) (subkey : EncryptionSubkey) : Signature :=
  certificate.key.bound subkey.bindingTarget certificate.created subkey.publicKey.preimage

/-- The packets that are bound and the signatures that bind them. -/
def boundPackets (certificate : Certificate) (subkeyPacket : EncryptionSubkey → Packet) :
    List Packet :=
  ⟨.userId, certificate.userId.id⟩ :: ⟨.signature, certificate.certification.encode⟩ ::
    match certificate.subkey with
    | none => []
    | some subkey => [subkeyPacket subkey, ⟨.signature, (certificate.subkeyBinding subkey).encode⟩]

theorem encodedLength_certification_le (certificate : Certificate) :
    certificate.certification.encodedLength ≤ PacketHeader.maxBodyLength :=
  Nat.le_trans (Nat.le_of_lt (certificate.key.encodedLength_bound_userId_lt _ _ _)) (by decide)

theorem encodedLength_subkeyBinding_le (certificate : Certificate) (subkey : EncryptionSubkey) :
    (certificate.subkeyBinding subkey).encodedLength ≤ PacketHeader.maxBodyLength :=
  Nat.le_trans (Nat.le_of_lt (certificate.key.encodedLength_bound_subkey_lt _ _ _)) (by decide)

/-- The certification of a user id that fits into a packet. -/
theorem outcome_certification (certificate : Certificate)
    (hLength : certificate.userId.id.length ≤ 255) :
    (certificate.key.bind certificate.userId.bindingTarget certificate.created).outcome =
      .ok (Packet.framed ⟨.signature, certificate.certification.encode⟩) :=
  certificate.key.outcome_bind certificate.created
    SignatureType.isBinding_certPositive (UserId.preimage_of_length_le hLength)
    certificate.encodedLength_certification_le

theorem outcome_subkeyBinding (certificate : Certificate) (subkey : EncryptionSubkey) :
    (certificate.key.bind subkey.bindingTarget certificate.created).outcome =
      .ok (Packet.framed ⟨.signature, (certificate.subkeyBinding subkey).encode⟩) :=
  certificate.key.outcome_bind certificate.created
    SignatureType.isBinding_subkeyBinding rfl
    (certificate.encodedLength_subkeyBinding_le subkey)

/-- The bindings are the frames of their packets. -/
theorem outcome_bindings (certificate : Certificate) (hLength : certificate.userId.id.length ≤ 255)
    {subkeyLogged : EncryptionSubkey → Logged (List UInt8)} {subkeyPacket : EncryptionSubkey → Packet}
    (hSubkey : ∀ subkey, (subkeyLogged subkey).outcome = .ok (subkeyPacket subkey).framed) :
    (certificate.bindings subkeyLogged).outcome =
      .ok ((certificate.boundPackets subkeyPacket).flatMap Packet.framed) := by
  rw [bindings, Logged.outcome_bind_of_ok (UserId.outcome_packet hLength),
    Logged.outcome_bind_of_ok (certificate.outcome_certification hLength), boundPackets]
  cases certificate.subkey with
  | none => simp
  | some subkey =>
      dsimp only
      rw [Logged.outcome_bind_of_ok (hSubkey subkey),
        Logged.outcome_bind_of_ok (certificate.outcome_subkeyBinding subkey)]
      simp

/-- All packets that are bound, and what binds them, have a frame. -/
theorem fits_boundPackets (certificate : Certificate)
    (hLength : certificate.userId.id.length ≤ 255) {subkeyPacket : EncryptionSubkey → Packet}
    (hSubkey : ∀ subkey, (subkeyPacket subkey).Fits) :
    ∀ packet ∈ certificate.boundPackets subkeyPacket, packet.Fits := by
  have hUserId := UserId.fits_packet hLength
  have hCertification := Signature.fits_encode certificate.encodedLength_certification_le
  rw [boundPackets]
  refine List.forall_mem_cons.mpr ⟨hUserId, List.forall_mem_cons.mpr ⟨hCertification, ?_⟩⟩
  cases certificate.subkey with
  | none => exact List.forall_mem_nil _
  | some subkey =>
      have hBinding := Signature.fits_encode (certificate.encodedLength_subkeyBinding_le subkey)
      exact List.forall_mem_cons.mpr ⟨hSubkey subkey, List.forall_mem_cons.mpr
        ⟨hBinding, List.forall_mem_nil _⟩⟩

/-- The packets of a public stream. -/
def publicPackets (certificate : Certificate) : List Packet :=
  ⟨.publicKey, certificate.key.publicKey.encode⟩ ::
    certificate.boundPackets fun subkey => ⟨.publicSubkey, subkey.publicKey.encode⟩

theorem outcome_publicBytes (certificate : Certificate)
    (hLength : certificate.userId.id.length ≤ 255) :
    certificate.publicBytes.outcome = .ok (certificate.publicPackets.flatMap Packet.framed) := by
  rw [publicBytes, Logged.outcome_bind_of_ok certificate.key.outcome_publicPacket,
    Logged.outcome_bind_of_ok (certificate.outcome_bindings hLength
      EncryptionSubkey.outcome_publicPacket)]
  rfl

/-- All packets of a public stream have a frame. -/
theorem fits_publicPackets (certificate : Certificate)
    (hLength : certificate.userId.id.length ≤ 255) :
    ∀ packet ∈ certificate.publicPackets, packet.Fits := by
  have hKey : Packet.Fits ⟨.publicKey, certificate.key.publicKey.encode⟩ :=
    ⟨show Tag.ofHeaderOctet Tag.publicKey.headerOctet = _ from rfl,
      certificate.key.publicKey.length_encode_le⟩
  refine List.forall_mem_cons.mpr ⟨hKey, certificate.fits_boundPackets hLength fun subkey => ?_⟩
  exact ⟨show Tag.ofHeaderOctet Tag.publicSubkey.headerOctet = _ from rfl,
    subkey.publicKey.length_encode_le⟩

/-- What is certified is what is emitted. A verifier that splits the public stream into its packets
accepts the certification over the bodies of the key and the user id, and the binding over the bodies
of the key and the subkey. -/
theorem publicBytes_verifies (certificate : Certificate)
    (hLength : certificate.userId.id.length ≤ 255) :
    ∃ bytes key userId certification signature bound,
      certificate.publicBytes.outcome = .ok bytes ∧
      Packet.Stream bytes
        (⟨.publicKey, key⟩ :: ⟨.userId, userId⟩ :: ⟨.signature, certification⟩ :: bound) ∧
      (PublicKey.parse .ed25519).parse key = (.ok certificate.key.publicKey, []) ∧
      userId = certificate.userId.id ∧
      signature.statement.type = .certPositive ∧
      signature.statement.hashed =
        .creationTime certificate.key.created :: certificate.userId.subpackets ∧
      Verifier.Accepts certificate.key.seed key (Verifier.userIdMaterial userId) certification
        signature ∧
      match certificate.subkey with
      | none => bound = []
      | some subkey => ∃ subkeyBody binding bindingSignature,
          bound = [⟨.publicSubkey, subkeyBody⟩, ⟨.signature, binding⟩] ∧
          (PublicKey.parse .curve25519).parse subkeyBody = (.ok subkey.publicKey, []) ∧
          bindingSignature.statement.type = .subkeyBinding ∧
          bindingSignature.statement.hashed =
            [.creationTime certificate.key.created, .keyFlags .encryption] ∧
          Verifier.Accepts certificate.key.seed key (Verifier.keyMaterial subkeyBody) binding
            bindingSignature := by
  have hStream := Packet.stream_flatMap_framed (certificate.fits_publicPackets hLength)
  have hParse := certificate.key.publicKey.reads_encode.parse_eq
  rw [certificate.key.curve_eq] at hParse
  have hAccepts := certificate.key.accepts_bound (Verifier.userIdMaterial certificate.userId.id)
    SignatureType.isBinding_certPositive
    (Nat.lt_of_le_of_lt certificate.userId.encodedLengthAll_subpackets_le (by decide))
  refine ⟨_, _, _, _, certificate.certification, _, certificate.outcome_publicBytes hLength, hStream,
    hParse, rfl, rfl, rfl, hAccepts, ?_⟩
  cases certificate.subkey with
  | none => rfl
  | some subkey =>
      have hSubkey := subkey.publicKey.reads_encode.parse_eq
      rw [subkey.curve_eq] at hSubkey
      refine ⟨_, _, certificate.subkeyBinding subkey, rfl, hSubkey, rfl, rfl, ?_⟩
      rw [Verifier.keyMaterial_encode]
      exact certificate.key.accepts_bound _
        SignatureType.isBinding_subkeyBinding (show 3 < 65530 by decide)

/-- A certificate with all that it can have. -/
theorem publicBytes_verifies_zero :
    ∃ bytes key certification subkey binding signature bindingSignature,
      (publicBytes ⟨.zero, ⟨[0x61], true⟩, some .zero⟩).outcome = .ok bytes ∧
      Packet.Stream bytes [⟨.publicKey, key⟩, ⟨.userId, [0x61]⟩, ⟨.signature, certification⟩,
        ⟨.publicSubkey, subkey⟩, ⟨.signature, binding⟩] ∧
      Verifier.Accepts zeroSeed key (Verifier.userIdMaterial [0x61]) certification signature ∧
      Verifier.Accepts zeroSeed key (Verifier.keyMaterial subkey) binding bindingSignature := by
  obtain ⟨bytes, key, _, certification, signature, _, hBytes, hStream, -, rfl, -, -, hCertified,
    hBound⟩ := publicBytes_verifies ⟨.zero, ⟨[0x61], true⟩, some .zero⟩ (show 1 ≤ 255 by decide)
  obtain ⟨subkey, binding, bindingSignature, rfl, -, -, -, hBinding⟩ := hBound
  exact ⟨bytes, key, certification, subkey, binding, signature, bindingSignature, hBytes, hStream,
    hCertified, hBinding⟩

end Certificate

end PhraseKey
