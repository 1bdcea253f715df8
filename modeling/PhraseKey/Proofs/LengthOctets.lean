import PhraseKey.Proofs.EmissionLogs
import PhraseKey.Proofs.StreamAgreement

/-!
Length octets as other readers take them. They read a length in one octet below 192 only, and from
there on take the octet for the first of several. Every packet of a derived key but that of a user id is
shorter than that.
-/

namespace PhraseKey

namespace Packet

/-- A length as other readers take it: in one, two or five octets. The octets that are left for the
first stand for a part of a longer body, which only packets of data may come in. -/
def parseStandardLength : Parser Nat := do
  let first ← Parser.u8 "packet length"
  if first < 192 then
    return first.toNat
  else if first < 224 then
    let second ← Parser.u8 "packet length"
    return (first.toNat - 192) * 256 + second.toNat + 192
  else if first = 255 then
    let length ← Parser.u32 "packet length"
    return length.toNat
  else
    Parser.fail (.unsupportedHeader first)

/-- A packet as other readers take it. -/
def parseStandard : Parser Packet := do
  let first ← Parser.u8 "packet header"
  Parser.ensure (first &&& 0xC0 = 0xC0) (.unsupportedHeader first)
  let length ← parseStandardLength
  let body ← Parser.take "packet body" length
  return ⟨.ofHeaderOctet first, body⟩

theorem reads_standardLength {length : UInt8} (short : length < 192) :
    parseStandardLength.Reads [length] length.toNat := by
  refine (Parser.reads_u8 _ length).last ?_
  rw [if_pos short]
  exact Parser.reads_pure _

/-- A length in one octet is below 192. -/
theorem accepts_standardLength :
    parseStandardLength.Accepts fun front length => front.length = 1 → length < 192 := by
  refine (Parser.accepts_u8 _).bind ?_
  rintro _ first rfl
  split
  · next hShort =>
      exact Parser.accepts_pure fun _ => UInt8.lt_iff_toNat_lt.mp hShort
  split
  · refine (Parser.accepts_u8 _).bind ?_
    rintro _ second rfl
    exact Parser.accepts_pure fun hLength => by cases hLength
  split
  · refine (Parser.accepts_u32 _).bind ?_
    rintro _ length rfl
    exact Parser.accepts_pure fun hLength => by simp at hLength
  · exact Parser.accepts_fail _

/-- A header and a length of one octet each leave a length below 192. -/
theorem accepts_standard :
    parseStandard.Accepts fun front packet =>
      front.length = packet.body.length + 2 → packet.body.length < 192 := by
  refine (Parser.accepts_u8 _).bind ?_
  rintro _ first rfl
  refine (Parser.accepts_ensure _ _).after fun _ _ => ?_
  refine accepts_standardLength.bind ?_
  intro octets length hOctets
  refine (Parser.accepts_take _ _).bind ?_
  rintro _ body ⟨rfl, rfl⟩
  refine Parser.accepts_pure fun hLength => hOctets ?_
  simp only [List.length_append, List.length_cons, List.length_nil] at hLength
  omega

/-- Other readers find the packet of a frame if its body is short, and otherwise never do. -/
theorem standard_reads_framed_iff {packet : Packet} (fits : packet.Fits) :
    parseStandard.Reads packet.framed packet ↔ packet.body.length < 192 := by
  constructor
  · intro hReads
    obtain ⟨front, hFront, hShort⟩ := accepts_standard _ _ _ hReads.parse_eq
    rw [List.append_nil] at hFront
    refine hShort ?_
    rw [← hFront, framed, List.length_append, PacketHeader.length_encode, Nat.add_comm]
    rfl
  · intro hShort
    have hLength : (UInt8.ofNat packet.body.length) < 192 := by
      rw [UInt8.lt_iff_toNat_lt, fits.toNat_length]
      exact hShort
    refine (Parser.reads_u8 _ packet.tag.headerOctet).bind ?_
    refine .of_ensure packet.tag.headerOctet_and ?_
    refine (reads_standardLength hLength).bind ?_
    rw [fits.tag_eq]
    exact (Parser.reads_take _ fits.toNat_length.symm).last (Parser.reads_pure packet)

end Packet

/-- The entry warns that a length means something else to other readers. -/
def LogEntry.IsLengthWarning (entry : LogEntry) : Prop :=
  ∃ tag length, entry = PacketHeader.lengthWarning tag length

theorem LogEntry.not_isLengthWarning_debug (message : String) :
    ¬ (LogEntry.mk .debug message).IsLengthWarning := by
  rintro ⟨tag, length, hEntry⟩
  cases congrArg LogEntry.level hEntry

/-- The other warning does not end with the same letter. -/
theorem SecretKey.not_isLengthWarning_emission : ¬ emission.IsLengthWarning := by
  rintro ⟨tag, length, hEntry⟩
  have hLast := congrArg (fun entry => entry.message.toList.getLast?) hEntry
  simp [emission, PacketHeader.lengthWarning, List.getLast?_cons, List.getLast?_append] at hLast

namespace Packet

/-- The call writes the packet, every reader finds it there, and nothing is said about its length. -/
structure FramedPlainly (packet : Packet) (call : Logged (List UInt8)) : Prop where
  outcome_eq : call.outcome = .ok packet.framed
  length_lt : packet.body.length < 192
  reads : Packet.parse.Reads packet.framed packet
  reads_standard : parseStandard.Reads packet.framed packet
  quiet : ∀ entry ∈ call.log, ¬ entry.IsLengthWarning

theorem Fits.framedPlainly {packet : Packet} {call : Logged (List UInt8)} (fits : packet.Fits)
    (length_lt : packet.body.length < 192) (outcome_eq : call.outcome = .ok packet.framed)
    (quiet : ∀ entry ∈ call.log, ¬ entry.IsLengthWarning) : packet.FramedPlainly call :=
  ⟨outcome_eq, length_lt, reads_framed fits, (standard_reads_framed_iff fits).mpr length_lt, quiet⟩

/-- Only a length that other readers take for another one is warned about. -/
theorem of_mem_log_encode {tag : Tag} {body : List UInt8} {entry : LogEntry}
    (h : entry ∈ (encode tag body).log) :
    192 ≤ body.length ∧ entry = PacketHeader.lengthWarning tag body.length := by
  by_cases hShort : body.length < PacketHeader.firstAmbiguousLength
  · rw [log_encode_of_short hShort] at h
    cases h
  have hLong : 192 ≤ body.length := Nat.not_lt.mp hShort
  by_cases hFits : body.length ≤ PacketHeader.maxBodyLength
  · rw [log_encode_of_ambiguous hLong hFits] at h
    exact ⟨hLong, List.mem_singleton.mp h⟩
  · rw [log_encode_of_oversized (Nat.not_le.mp hFits)] at h
    cases h

end Packet

/-- The public part of any key is framed in a packet of any type. -/
theorem PublicKey.framedPlainly_packet {tag : Tag}
    (tag_eq : .ofHeaderOctet tag.headerOctet = tag) (key : PublicKey) :
    Packet.FramedPlainly ⟨tag, key.encode⟩ (Packet.encode tag key.encode) := by
  refine Packet.Fits.framedPlainly ⟨tag_eq, key.length_encode_le⟩ key.length_encode_lt
    (Packet.outcome_encode key.length_encode_le) ?_
  rw [Packet.log_encode_of_short key.length_encode_lt]
  exact List.forall_mem_nil _

/-- A secret of at most 32 octets is framed in a packet of any type. -/
theorem SecretKey.framedPlainly_packet {tag : Tag} {key : SecretKey}
    (tag_eq : .ofHeaderOctet tag.headerOctet = tag)
    (small : key.secret.octets.length ≤ 32) :
    Packet.FramedPlainly ⟨tag, key.body⟩ (do let body ← key.encode; Packet.encode tag body) := by
  refine (fits_body tag_eq small).framedPlainly (length_body_lt small)
    (outcome_packet (fits_body tag_eq small)) ?_
  rw [log_packet small]
  exact List.forall_mem_singleton.mpr not_isLengthWarning_emission

namespace SigningKey

theorem framedPlainly_publicPacket (key : SigningKey) :
    Packet.FramedPlainly ⟨.publicKey, key.publicKey.encode⟩ key.publicPacket :=
  key.publicKey.framedPlainly_packet rfl

theorem framedPlainly_secretPacket (key : SigningKey) :
    key.stored.FramedPlainly key.secretPacket :=
  SecretKey.framedPlainly_packet rfl key.length_secret_le

/-- Every detached signature is short. -/
theorem framedPlainly_sign (key : SigningKey) {source : Source}
    (hEnding : source.ending = .endOfData) :
    Packet.FramedPlainly ⟨.signature, (key.signed source.octets).encode⟩
      (key.sign.run source).1 := by
  have hLength := key.encodedLength_signed_le source.octets
  refine (Signature.fits_encode (Nat.le_trans hLength (by decide))).framedPlainly ?_
    (key.outcome_sign hEnding) ?_
  · rw [Signature.length_encode]
    exact Nat.lt_of_le_of_lt hLength (by decide)
  · rw [key.log_sign hEnding]
    exact List.forall_mem_singleton.mpr (LogEntry.not_isLengthWarning_debug _)

/-- A binding is short if the statements of its target are. -/
theorem framedPlainly_bind (key : SigningKey) {target : BindingTarget} (created : Timestamp)
    {data : List UInt8} (hType : target.type.IsBinding) (hData : target.preimage = .ok data)
    (hLength : (key.bound target created data).encodedLength < 192) :
    Packet.FramedPlainly ⟨.signature, (key.bound target created data).encode⟩
      (key.bind target created) := by
  have hFits : (key.bound target created data).encodedLength ≤ PacketHeader.maxBodyLength :=
    Nat.le_trans (Nat.le_of_lt hLength) (by decide)
  refine (Signature.fits_encode hFits).framedPlainly ?_
    (key.outcome_bind created hType hData hFits) ?_
  · rw [Signature.length_encode]
    exact hLength
  · rw [key.log_bind created hType hData hLength]
    exact List.forall_mem_singleton.mpr (LogEntry.not_isLengthWarning_debug _)

theorem framedPlainly_bind_userId (key : SigningKey) {userId : UserId} (created : Timestamp)
    (hLength : userId.id.length < 2 ^ 32) :
    Packet.FramedPlainly
      ⟨.signature, (key.bound userId.bindingTarget created
        (Verifier.userIdMaterial userId.id)).encode⟩
      (key.bind userId.bindingTarget created) :=
  key.framedPlainly_bind created SignatureType.isBinding_certPositive
    (UserId.preimage_of_length_lt hLength)
    (key.encodedLength_bound_userId_lt _ _ _)

theorem framedPlainly_bind_subkey (key : SigningKey) (subkey : EncryptionSubkey)
    (created : Timestamp) :
    Packet.FramedPlainly
      ⟨.signature, (key.bound subkey.bindingTarget created subkey.publicKey.preimage).encode⟩
      (key.bind subkey.bindingTarget created) :=
  key.framedPlainly_bind created SignatureType.isBinding_subkeyBinding rfl
    (key.encodedLength_bound_subkey_lt _ _ _)

end SigningKey

namespace EncryptionSubkey

theorem framedPlainly_publicPacket (key : EncryptionSubkey) :
    Packet.FramedPlainly ⟨.publicSubkey, key.publicKey.encode⟩ key.publicPacket :=
  key.publicKey.framedPlainly_packet rfl

theorem framedPlainly_secretPacket (key : EncryptionSubkey) :
    key.stored.FramedPlainly key.secretPacket :=
  SecretKey.framedPlainly_packet rfl key.length_secret_le

end EncryptionSubkey

namespace UserId

/-- The entry is the warning about the length of this user id, which has the length for it. -/
def IsWarnedBy (userId : UserId) (entry : LogEntry) : Prop :=
  192 ≤ userId.id.length ∧ entry = PacketHeader.lengthWarning .userId userId.id.length

theorem isWarnedBy_of_mem_log {userId : UserId} {entry : LogEntry}
    (h : entry ∈ userId.packet.log) : userId.IsWarnedBy entry :=
  Packet.of_mem_log_encode h

end UserId

namespace Certificate

/-- Only the packet of the user id in a stream can be long, and only that is warned about. -/
structure LongOnlyInUserId (certificate : Certificate) (stream : Logged (List UInt8)) : Prop where
  packets : ∀ octets, stream.outcome = .ok octets → ∃ packets, Packet.Stream octets packets ∧
    ∀ packet ∈ packets, 192 ≤ packet.body.length → packet = ⟨.userId, certificate.userId.id⟩
  log : ∀ entry ∈ stream.log, entry.IsLengthWarning → certificate.userId.IsWarnedBy entry

/-- All packets that are bound, and what binds them, are short but for the user id. -/
theorem eq_userId_of_mem_boundPackets (certificate : Certificate)
    {subkeyPacket : EncryptionSubkey → Packet}
    (hSubkey : ∀ subkey, (subkeyPacket subkey).body.length < 192) :
    ∀ packet ∈ certificate.boundPackets subkeyPacket, 192 ≤ packet.body.length →
      packet = ⟨.userId, certificate.userId.id⟩ := by
  have hCertification : certificate.certification.encode.length < 192 := by
    rw [Signature.length_encode]
    exact certificate.key.encodedLength_bound_userId_lt _ _ _
  rw [boundPackets]
  refine List.forall_mem_cons.mpr ⟨fun _ => rfl, List.forall_mem_cons.mpr
    ⟨fun hLong => absurd hCertification (Nat.not_lt.mpr hLong), ?_⟩⟩
  cases certificate.subkey with
  | none => exact List.forall_mem_nil _
  | some subkey =>
      have hBinding : (certificate.subkeyBinding subkey).encode.length < 192 := by
        rw [Signature.length_encode]
        exact certificate.key.encodedLength_bound_subkey_lt _ _ _
      exact List.forall_mem_cons.mpr
        ⟨fun hLong => absurd (hSubkey subkey) (Nat.not_lt.mpr hLong), List.forall_mem_cons.mpr
          ⟨fun hLong => absurd hBinding (Nat.not_lt.mpr hLong), List.forall_mem_nil _⟩⟩

theorem isWarnedBy_of_mem_bindingEntries {certificate : Certificate} {subkeyEntries : List LogEntry}
    (hSubkey : ∀ entry ∈ subkeyEntries, ¬ entry.IsLengthWarning) {entry : LogEntry}
    (h : entry ∈ certificate.bindingEntries subkeyEntries) (hWarning : entry.IsLengthWarning) :
    certificate.userId.IsWarnedBy entry := by
  have hSigning : ∀ type : SignatureType, entry ≠ type.signing := by
    rintro type rfl
    exact LogEntry.not_isLengthWarning_debug _ hWarning
  have hOther : entry ∉ subkeyEntries := fun hEntry => hSubkey entry hEntry hWarning
  rcases List.mem_append.mp h with hUserId | hBound
  · exact UserId.isWarnedBy_of_mem_log hUserId
  · -- Nothing that is logged behind the user id is about a length.
    split at hBound
    · split at hBound <;> simp [hSigning, hOther] at hBound
    · cases hBound

/-- A stream is its packets if the user id fits into one, and nothing otherwise. -/
theorem LongOnlyInUserId.of_packets {certificate : Certificate} {stream : Logged (List UInt8)}
    {packets : List Packet} {error : Error}
    (written : certificate.userId.id.length ≤ 255 →
      stream.outcome = .ok (packets.flatMap Packet.framed))
    (refused : 255 < certificate.userId.id.length → stream.outcome = .error error)
    (fits : certificate.userId.id.length ≤ 255 → ∀ packet ∈ packets, packet.Fits)
    (short : ∀ packet ∈ packets, 192 ≤ packet.body.length →
      packet = ⟨.userId, certificate.userId.id⟩)
    (log : ∀ entry ∈ stream.log, entry.IsLengthWarning → certificate.userId.IsWarnedBy entry) :
    certificate.LongOnlyInUserId stream where
  packets octets hOctets := by
    by_cases hLength : certificate.userId.id.length ≤ 255
    · cases (written hLength).symm.trans hOctets
      exact ⟨packets, Packet.stream_flatMap_framed (fits hLength), short⟩
    · cases (refused (Nat.not_le.mp hLength)).symm.trans hOctets
  log := log

theorem longOnlyInUserId_publicBytes (certificate : Certificate) :
    certificate.LongOnlyInUserId certificate.publicBytes := by
  have hKey := certificate.key.framedPlainly_publicPacket.length_lt
  refine .of_packets certificate.outcome_publicBytes outcome_publicBytes_of_lt
    certificate.fits_publicPackets ?_ ?_
  · exact List.forall_mem_cons.mpr ⟨fun hLong => absurd hKey (Nat.not_lt.mpr hLong),
      certificate.eq_userId_of_mem_boundPackets fun subkey =>
        subkey.framedPlainly_publicPacket.length_lt⟩
  · rw [log_publicBytes]
    exact fun entry => isWarnedBy_of_mem_bindingEntries (List.forall_mem_nil _)

theorem eq_userId_of_mem_secretPackets (certificate : Certificate) :
    ∀ packet ∈ certificate.secretPackets, 192 ≤ packet.body.length →
      packet = ⟨.userId, certificate.userId.id⟩ := by
  have hKey := certificate.key.framedPlainly_secretPacket.length_lt
  exact List.forall_mem_cons.mpr ⟨fun hLong => absurd hKey (Nat.not_lt.mpr hLong),
    certificate.eq_userId_of_mem_boundPackets fun subkey =>
      subkey.framedPlainly_secretPacket.length_lt⟩

theorem longOnlyInUserId_secretBytes (certificate : Certificate) :
    certificate.LongOnlyInUserId certificate.secretBytes := by
  refine .of_packets outcome_secretBytes outcome_secretBytes_of_lt
    certificate.fits_secretPackets certificate.eq_userId_of_mem_secretPackets ?_
  rw [log_secretBytes]
  refine List.forall_mem_cons.mpr ⟨fun h => absurd h SecretKey.not_isLengthWarning_emission, ?_⟩
  exact fun entry => isWarnedBy_of_mem_bindingEntries
    (List.forall_mem_singleton.mpr SecretKey.not_isLengthWarning_emission)

/-- The packets of a key file are in every secret stream. -/
theorem longOnlyInUserId_keyFile (certificate : Certificate) :
    certificate.LongOnlyInUserId certificate.keyFile := by
  have hSecret : ∀ packet ∈ certificate.keyFilePackets, packet ∈ certificate.secretPackets := by
    obtain ⟨bound, hBound⟩ := certificate.secretPackets_eq
    intro packet hPacket
    rw [hBound]
    exact List.mem_append_left bound hPacket
  refine .of_packets outcome_keyFile outcome_keyFile_of_lt
    (fun hLength packet hPacket =>
      certificate.fits_secretPackets hLength packet (hSecret packet hPacket))
    (fun packet hPacket =>
      certificate.eq_userId_of_mem_secretPackets packet (hSecret packet hPacket)) ?_
  rw [log_keyFile]
  exact List.forall_mem_cons.mpr ⟨fun h => absurd h SecretKey.not_isLengthWarning_emission,
    fun entry hEntry _ => UserId.isWarnedBy_of_mem_log hEntry⟩

end Certificate

/-- Only the packet of a user id can have a length that other readers take for another one. The public
and the secret packet of every key and subkey, every signature of a document and every binding of a
user id or a subkey are framed without a word about their length, and every reader finds them in their
frame. The same holds in every stream of a certificate for all packets but that of the user id. That
one is still framed with 192 to 255 octets, but with a warning, and other readers do not find it. -/
theorem lengthOctet_ambiguous_only_userId :
    (∀ key : SigningKey,
      Packet.FramedPlainly ⟨.publicKey, key.publicKey.encode⟩ key.publicPacket ∧
      Packet.FramedPlainly ⟨.secretKey, key.secretKey.body⟩ key.secretPacket ∧
      (∀ source : Source, source.ending = .endOfData → ∃ body,
        Packet.FramedPlainly ⟨.signature, body⟩ (key.sign.run source).1) ∧
      (∀ (userId : UserId) (created : Timestamp), userId.id.length < 2 ^ 32 → ∃ body,
        Packet.FramedPlainly ⟨.signature, body⟩ (key.bind userId.bindingTarget created)) ∧
      ∀ (subkey : EncryptionSubkey) (created : Timestamp), ∃ body,
        Packet.FramedPlainly ⟨.signature, body⟩ (key.bind subkey.bindingTarget created)) ∧
    (∀ subkey : EncryptionSubkey,
      Packet.FramedPlainly ⟨.publicSubkey, subkey.publicKey.encode⟩ subkey.publicPacket ∧
      Packet.FramedPlainly ⟨.secretSubkey, subkey.secretKey.body⟩ subkey.secretPacket) ∧
    (∀ certificate : Certificate,
      certificate.LongOnlyInUserId certificate.publicBytes ∧
      certificate.LongOnlyInUserId certificate.secretBytes ∧
      certificate.LongOnlyInUserId certificate.keyFile) ∧
    ∀ userId : UserId, 192 ≤ userId.id.length → userId.id.length ≤ 255 →
      userId.packet.outcome = .ok (Packet.framed ⟨.userId, userId.id⟩) ∧
      userId.packet.log = [PacketHeader.lengthWarning .userId userId.id.length] ∧
      Packet.parse.Reads (Packet.framed ⟨.userId, userId.id⟩) ⟨.userId, userId.id⟩ ∧
      ¬ Packet.parseStandard.Reads (Packet.framed ⟨.userId, userId.id⟩) ⟨.userId, userId.id⟩ := by
  refine ⟨fun key => ?_, fun subkey => ?_, fun certificate => ?_, fun userId hLong hLength => ?_⟩
  · exact ⟨key.framedPlainly_publicPacket, key.framedPlainly_secretPacket,
      fun _ hEnding => ⟨_, key.framedPlainly_sign hEnding⟩,
      fun _ created hLength => ⟨_, key.framedPlainly_bind_userId created hLength⟩,
      fun subkey created => ⟨_, key.framedPlainly_bind_subkey subkey created⟩⟩
  · exact ⟨subkey.framedPlainly_publicPacket, subkey.framedPlainly_secretPacket⟩
  · exact ⟨certificate.longOnlyInUserId_publicBytes, certificate.longOnlyInUserId_secretBytes,
      certificate.longOnlyInUserId_keyFile⟩
  · have hFits := UserId.fits_packet hLength
    refine ⟨UserId.outcome_packet hLength, Packet.log_encode_of_ambiguous hLong hLength,
      Packet.reads_framed hFits, ?_⟩
    rw [Packet.standard_reads_framed_iff hFits]
    exact Nat.not_lt.mpr hLong

/-- A user id of 192 octets, in a certificate with all that it can have. -/
theorem lengthOctet_ambiguous_only_userId_long :
    (∃ body, Packet.FramedPlainly ⟨.signature, body⟩ (SigningKey.zero.sign.run (.ofOctets [])).1) ∧
    (∃ body, Packet.FramedPlainly ⟨.signature, body⟩
      (SigningKey.zero.bind (UserId.bindingTarget ⟨List.replicate 192 0x61, true⟩) .epoch)) ∧
    (∃ octets packets,
      (Certificate.publicBytes ⟨.zero, ⟨List.replicate 192 0x61, true⟩, some .zero⟩).outcome =
        .ok octets ∧
      Packet.Stream octets packets ∧
      ∀ packet ∈ packets, 192 ≤ packet.body.length →
        packet = ⟨.userId, List.replicate 192 0x61⟩) ∧
    ¬ Packet.parseStandard.Reads (Packet.framed ⟨.userId, List.replicate 192 0x61⟩)
      ⟨.userId, List.replicate 192 0x61⟩ := by
  have hLength : (List.replicate 192 (0x61 : UInt8)).length = 192 := List.length_replicate
  obtain ⟨hKey, -, hCertificate, hUserId⟩ := lengthOctet_ambiguous_only_userId
  obtain ⟨-, -, hSign, hBind, -⟩ := hKey .zero
  refine ⟨hSign _ rfl, hBind _ .epoch ?_, ?_, (hUserId ⟨List.replicate 192 0x61, true⟩ ?_ ?_).2.2.2⟩
  · dsimp only
    rw [hLength]
    decide
  · have hStream := (hCertificate ⟨.zero, ⟨List.replicate 192 0x61, true⟩, some .zero⟩).1
    have hOutcome := Certificate.outcome_publicBytes
      ⟨.zero, ⟨List.replicate 192 0x61, true⟩, some .zero⟩ (by
        dsimp only
        rw [hLength]
        decide)
    obtain ⟨packets, hPackets, hShort⟩ := hStream.packets _ hOutcome
    exact ⟨_, packets, hOutcome, hPackets, hShort⟩
  · exact Nat.le_of_eq hLength.symm
  · exact Nat.le_trans (Nat.le_of_eq hLength) (by decide)

end PhraseKey
