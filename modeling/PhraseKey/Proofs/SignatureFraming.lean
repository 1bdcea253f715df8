import Mathlib.Data.List.Forall2
import PhraseKey.Proofs.PacketStreams
import PhraseKey.Proofs.Verification

/-!
Signatures in their packets. The lengths inside of a signature are written modulo what their fields can
say, and nothing looks at them. But whatever has a length that wraps is too long for a packet, so in a
packet every length is that of what it stands in front of, and the packet determines the signature.
-/

namespace PhraseKey

namespace Subpacket

/-- A length octet, and the type and the body that it counts. -/
def IsCounted (subpacket : Subpacket) (octets : List UInt8) : Prop :=
  ∃ length : UInt8, octets = length :: subpacket.type.id :: subpacket.body ∧
    length.toNat = 1 + subpacket.body.length

/-- A length in two octets, and as many octets, which are the subpackets one after another. -/
def IsCountedArea (subpackets : List Subpacket) (octets : List UInt8) : Prop :=
  ∃ (length : Octets 2) (pieces : List (List UInt8)), octets = length.toList ++ pieces.flatten ∧
    ofBigEndian length.toList = pieces.flatten.length ∧ List.Forall₂ IsCounted subpackets pieces

/-- No body is too long for its length octet. -/
theorem isCounted_encode (subpacket : Subpacket) : subpacket.IsCounted subpacket.encode := by
  have hBound := subpacket.bodyLength_le
  refine ⟨UInt8.ofNat (1 + subpacket.bodyLength), rfl, ?_⟩
  rw [UInt8.toNat_ofNat', length_body]
  omega

theorem isCountedArea_encodeArea {subpackets : List Subpacket}
    (fits : encodedLengthAll subpackets < 65536) :
    IsCountedArea subpackets (encodeArea subpackets) := by
  have hPieces : (subpackets.map encode).flatten = encodeAll subpackets := List.flatMap_def.symm
  refine ⟨⟨bigEndian 2 (encodedLengthAll subpackets), length_bigEndian ..⟩, subpackets.map encode,
    ?_, ?_, ?_⟩
  · rw [hPieces]
    rfl
  · rw [hPieces, length_encodeAll, ofBigEndian_bigEndian]
    exact Nat.mod_eq_of_lt fits
  · rw [List.forall₂_map_right_iff, List.forall₂_same]
    exact fun subpacket _ => subpacket.isCounted_encode

end Subpacket

namespace Mpi

/-- A bit count in two octets, which is the number of binary digits of the integer, and the integer in
as many octets as those take. -/
def IsCounted (mpi : Mpi) (octets : List UInt8) : Prop :=
  ∃ count : Octets 2, octets = count.toList ++ mpi.octets ∧
    ofBigEndian count.toList = Nat.size mpi.toNat ∧
    mpi.octets.length = (Nat.size mpi.toNat + 7) / 8

theorem isCounted_encode {mpi : Mpi} (fits : mpi.octets.length < 8192) :
    mpi.IsCounted mpi.encode := by
  have hBits := bitLength_le mpi.octets
  refine ⟨⟨bigEndian 2 (bitLength mpi.octets), length_bigEndian ..⟩, rfl, ?_, ?_⟩
  · rw [ofBigEndian_bigEndian, ← bitLength_eq_size]
    exact Nat.mod_eq_of_lt (show bitLength mpi.octets < 65536 by omega)
  · rw [← bitLength_eq_size, octetCount_bitLength]

end Mpi

namespace Signature

/-- A packet of the signature in which every length is that of what it stands in front of. -/
def IsCountedPacket (signature : Signature) (packet : List UInt8) : Prop :=
  ∃ (length : UInt8) (body hashed unhashed r s : List UInt8),
    packet = 0xC2 :: length :: body ∧ length.toNat = body.length ∧
    body = [4, signature.statement.type.id, signature.statement.keyAlgorithm.id,
      signature.statement.hash.id] ++ hashed ++ unhashed ++ signature.digestStart.toList ++ r ++ s ∧
    Subpacket.IsCountedArea signature.statement.hashed hashed ∧
    Subpacket.IsCountedArea signature.statement.unhashed unhashed ∧
    signature.value.r.IsCounted r ∧ signature.value.s.IsCounted s

/-- What has a length that wraps is too long for a packet. -/
theorem Fits.of_encodedLength_le {signature : Signature} (h : signature.encodedLength ≤ 255) :
    signature.Fits := by
  have hValue : signature.value.encodedLength =
      2 + signature.value.r.octets.length + (2 + signature.value.s.octets.length) := rfl
  rw [encodedLength, hValue] at h
  constructor <;> omega

theorem isCountedPacket_framed {signature : Signature} (h : signature.encodedLength ≤ 255) :
    signature.IsCountedPacket (Packet.framed ⟨.signature, signature.encode⟩) := by
  have hFits := Fits.of_encodedLength_le h
  refine ⟨UInt8.ofNat signature.encode.length, signature.encode, _, _, _, _,
    Packet.framed_signature signature.encode, (fits_encode h).toNat_length, ?_,
    Subpacket.isCountedArea_encodeArea hFits.hashed_lt,
    Subpacket.isCountedArea_encodeArea hFits.unhashed_lt, Mpi.isCounted_encode hFits.r_lt,
    Mpi.isCounted_encode hFits.s_lt⟩
  simp [encode, Statement.head, Statement.version, SignatureValue.encode, encodeMpis]

/-- Signatures that say the same. Types and algorithms are compared by their octets, whether they were
asked for by name or by number. -/
structure SaysSame (first second : Signature) : Prop where
  type_eq : first.statement.type.id = second.statement.type.id
  keyAlgorithm_eq : first.statement.keyAlgorithm.id = second.statement.keyAlgorithm.id
  hash_eq : first.statement.hash.id = second.statement.hash.id
  hashed_eq : first.statement.hashed = second.statement.hashed
  unhashed_eq : first.statement.unhashed = second.statement.unhashed
  digestStart_eq : first.digestStart = second.digestStart
  r_eq : first.value.r = second.value.r
  s_eq : first.value.s = second.value.s

theorem SaysSame.encode_eq {first second : Signature} (h : first.SaysSame second) :
    first.encode = second.encode := by
  simp only [encode, Statement.head, SignatureValue.encode, h.type_eq, h.keyAlgorithm_eq, h.hash_eq,
    h.hashed_eq, h.unhashed_eq, h.digestStart_eq, h.r_eq, h.s_eq]

/-- What is read back is all that a signature says. -/
theorem saysSame_of_asRead_eq {first second : Signature} (h : first.asRead = second.asRead) :
    first.SaysSame second where
  type_eq := by
    simpa [asRead, Statement.asRead] using congrArg (fun read => read.statement.type.id) h
  keyAlgorithm_eq := by
    simpa [asRead, Statement.asRead] using congrArg (fun read => read.statement.keyAlgorithm.id) h
  hash_eq := by
    simpa [asRead, Statement.asRead] using congrArg (fun read => read.statement.hash.id) h
  hashed_eq := congrArg (fun read => read.statement.hashed) h
  unhashed_eq := congrArg (fun read => read.statement.unhashed) h
  digestStart_eq := congrArg (fun read => read.digestStart) h
  r_eq := congrArg (fun read => read.value.r) h
  s_eq := congrArg (fun read => read.value.s) h

/-- Signatures are told apart by their packets. -/
theorem saysSame_of_framed_eq {first second : Signature} (hFirst : first.encodedLength ≤ 255)
    (hSecond : second.encodedLength ≤ 255)
    (h : Packet.framed ⟨.signature, first.encode⟩ = Packet.framed ⟨.signature, second.encode⟩) :
    first.SaysSame second := by
  have hBody : first.encode = second.encode := by
    rw [Packet.framed_signature, Packet.framed_signature] at h
    exact (List.cons.inj (List.cons.inj h).2).2
  have hDecode := decode_encode (Fits.of_encodedLength_le hFirst)
  rw [hBody, decode_encode (Fits.of_encodedLength_le hSecond)] at hDecode
  exact saysSame_of_asRead_eq (Except.ok.inj hDecode).symm

theorem outcome_toPacket_eq_error_iff {signature : Signature} {error : Error} :
    signature.toPacket.outcome = .error error ↔
      255 < signature.encodedLength ∧ error = .oversizedBody signature.encodedLength 255 ∧
        error.kind = .encoding := by
  rw [toPacket, Packet.outcome_encode_eq_error_iff, length_encode]

theorem outcome_toPacket_eq_ok_iff {signature : Signature} {packet : List UInt8} :
    signature.toPacket.outcome = .ok packet ↔
      signature.encodedLength ≤ 255 ∧ packet = Packet.framed ⟨.signature, signature.encode⟩ := by
  by_cases hLength : signature.encodedLength ≤ 255
  · rw [outcome_toPacket hLength, Except.ok.injEq, and_iff_right hLength, eq_comm]
  · have hError := outcome_toPacket_eq_error_iff.mpr ⟨Nat.not_le.mp hLength, rfl, rfl⟩
    rw [hError]
    simp [hLength]

/-- A framed signature never carries a wrong length. Framing fails exactly for signatures of more than
255 octets, with an error of encoding that has their length. Every other signature, with any type and
algorithms, subpackets and integers, gets a packet all of whose lengths are right, and which is the
packet of exactly those signatures that say the same. -/
theorem toPacket_determines (signature : Signature) :
    (∀ error, signature.toPacket.outcome = .error error ↔
      255 < signature.encodedLength ∧ error = .oversizedBody signature.encodedLength 255 ∧
        error.kind = .encoding) ∧
    (signature.encodedLength ≤ 255 →
      ∃ packet, signature.toPacket.outcome = .ok packet ∧ signature.IsCountedPacket packet ∧
        ∀ other : Signature, other.toPacket.outcome = .ok packet ↔ other.SaysSame signature) := by
  refine ⟨fun error => outcome_toPacket_eq_error_iff, fun hLength => ?_⟩
  refine ⟨_, outcome_toPacket hLength, isCountedPacket_framed hLength, fun other => ⟨?_, ?_⟩⟩
  · intro hOther
    obtain ⟨hOtherLength, hPacket⟩ := outcome_toPacket_eq_ok_iff.mp hOther
    exact saysSame_of_framed_eq hOtherLength hLength hPacket.symm
  · intro hSame
    rw [toPacket, hSame.encode_eq]
    exact outcome_toPacket hLength

/-- A signature of some type, with unknown algorithms and key flags, and with its time where it is not
signed. -/
def unusual (type : SignatureType) (r s : Mpi) : Signature :=
  ⟨⟨type, .other 0x01, .other 0xFF, [.issuer ⟨⟨List.replicate 8 0x7F, rfl⟩⟩, .keyFlags ⟨0xF0⟩],
    [.creationTime ⟨0⟩]⟩, ⟨[0x12, 0x34], rfl⟩, ⟨r, s⟩⟩

theorem encodedLength_unusual (type : SignatureType) (r s : Mpi) :
    (unusual type r s).encodedLength = 29 + (2 + r.octets.length + (2 + s.octets.length)) := rfl

/-- An integer with one octet too many for its bit count. -/
def wideInteger : Mpi :=
  ⟨0xFF :: List.replicate 8191 0xFF, by rw [List.head?_cons]; decide⟩

/-- A type that is asked for by its number has the packet of the one with the name. An integer whose bit
count would wrap has no packet. -/
theorem toPacket_determines_unusual :
    (unusual .certPositive (.ofOctets []) (.ofOctets [0x01, 0x00])).encodedLength ≤ 255 ∧
    (∃ packet,
      (unusual .certPositive (.ofOctets []) (.ofOctets [0x01, 0x00])).toPacket.outcome = .ok packet ∧
      (unusual .certPositive (.ofOctets []) (.ofOctets [0x01, 0x00])).IsCountedPacket packet ∧
      (unusual (.other 0x13) (.ofOctets []) (.ofOctets [0x01, 0x00])).toPacket.outcome = .ok packet ∧
      (unusual (.other 0x14) (.ofOctets []) (.ofOctets [0x01, 0x00])).toPacket.outcome ≠
        .ok packet) ∧
    Mpi.bitLength wideInteger.octets = 65536 ∧
    (unusual .binary wideInteger (.ofOctets [])).toPacket.outcome =
      .error (.oversizedBody 8225 255) := by
  have hLength : (unusual .certPositive (.ofOctets []) (.ofOctets [0x01, 0x00])).encodedLength ≤ 255 := by
    decide
  have hWide : (unusual .binary wideInteger (.ofOctets [])).encodedLength = 8225 := by
    rw [encodedLength_unusual, wideInteger, List.length_cons, List.length_replicate]
    rfl
  refine ⟨hLength, ?_, ?_, ?_⟩
  · obtain ⟨packet, hPacket, hCounted, hOther⟩ :=
      (toPacket_determines (unusual .certPositive (.ofOctets []) (.ofOctets [0x01, 0x00]))).2 hLength
    refine ⟨packet, hPacket, hCounted, (hOther _).mpr ⟨rfl, rfl, rfl, rfl, rfl, rfl, rfl, rfl⟩, ?_⟩
    intro h
    exact absurd ((hOther _).mp h).type_eq (by decide)
  · rw [wideInteger, Mpi.bitLength, List.length_replicate]
    decide
  · rw [(toPacket_determines (unusual .binary wideInteger (.ofOctets []))).1, hWide]
    exact ⟨by decide, rfl, rfl⟩

end Signature

end PhraseKey
