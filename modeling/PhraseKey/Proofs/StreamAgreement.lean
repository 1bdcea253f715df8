import Mathlib.Data.List.Forall2
import PhraseKey.Proofs.HashInput
import PhraseKey.Proofs.KeyFiles
import PhraseKey.Proofs.PacketStreams

/-!
The two streams of a certificate. They have the same packets but for those of the keys, and the secret
packet of a key starts with what its public packet holds. A subkey only adds packets at the end, and
whether modification is detected is only seen in the certification.
-/

namespace PhraseKey

namespace Packet

/-- A packet of a public stream, and the packet in its place in the secret stream: the same, unless it
is that of a key, to which the secret stream adds the secret. -/
def Corresponds (shown stored : Packet) : Prop :=
  if shown.tag = .publicKey ∨ shown.tag = .publicSubkey then
    shown.body <+: stored.body ∧ shown.body ≠ stored.body
  else stored = shown

theorem corresponds_self {packet : Packet}
    (h : ¬ (packet.tag = .publicKey ∨ packet.tag = .publicSubkey)) : packet.Corresponds packet := by
  rw [Corresponds, if_neg h]

/-- Packets that start others are written at the front of them. -/
theorem flatMap_framed_isPrefix {packets more : List Packet} (h : packets <+: more) :
    packets.flatMap framed <+: more.flatMap framed := by
  obtain ⟨rest, rfl⟩ := h
  rw [List.flatMap_append]
  exact List.prefix_append _ _

end Packet

/-- The public part of a key is the beginning of its secret body, and never all of it. -/
theorem SecretKey.publicKey_encode_isPrefix_body (key : SecretKey) :
    key.publicKey.encode <+: key.body ∧ key.publicKey.encode ≠ key.body := by
  refine ⟨⟨unprotected :: key.secret.encode ++ bigEndian 2 (checksum key.secret.encode).toNat, ?_⟩,
    fun hEq => ?_⟩
  · simp [body]
  · have hLength := congrArg List.length hEq
    rw [length_body, bodyLength, PublicKey.length_encode] at hLength
    omega

namespace Certificate

theorem fits_secretPackets (certificate : Certificate)
    (hLength : certificate.userId.id.length ≤ 255) :
    ∀ packet ∈ certificate.secretPackets, packet.Fits :=
  List.forall_mem_cons.mpr ⟨certificate.key.fits_stored,
    certificate.fits_boundPackets hLength EncryptionSubkey.fits_stored⟩

/-- The types of the packets that are bound, and of what binds them. -/
theorem tags_boundPackets (certificate : Certificate) {subkeyPacket : EncryptionSubkey → Packet}
    {tag : Tag} (hSubkey : ∀ subkey, (subkeyPacket subkey).tag = tag) :
    (certificate.boundPackets subkeyPacket).map Packet.tag =
      .userId :: .signature :: if certificate.subkey.isSome then [tag, .signature] else [] := by
  rw [boundPackets]
  cases certificate.subkey with
  | none => rfl
  | some subkey =>
      change [Tag.userId, .signature, (subkeyPacket subkey).tag, .signature] = _
      rw [hSubkey]
      rfl

/-- Both streams correspond, packet by packet. -/
theorem corresponds_packets (certificate : Certificate) :
    List.Forall₂ Packet.Corresponds certificate.publicPackets certificate.secretPackets := by
  have hKey : Packet.Corresponds ⟨.publicKey, certificate.key.publicKey.encode⟩
      certificate.key.stored := by
    rw [Packet.Corresponds, if_pos (.inl rfl)]
    exact certificate.key.secretKey.publicKey_encode_isPrefix_body
  have hSubkey : ∀ subkey : EncryptionSubkey,
      Packet.Corresponds ⟨.publicSubkey, subkey.publicKey.encode⟩ subkey.stored := by
    intro subkey
    rw [Packet.Corresponds, if_pos (.inr rfl)]
    exact subkey.secretKey.publicKey_encode_isPrefix_body
  have hUserId : Packet.Corresponds ⟨.userId, certificate.userId.id⟩
      ⟨.userId, certificate.userId.id⟩ :=
    Packet.corresponds_self (show ¬ (Tag.userId = .publicKey ∨ Tag.userId = .publicSubkey) by decide)
  have hSignature : ∀ body, Packet.Corresponds ⟨.signature, body⟩ ⟨.signature, body⟩ := fun body =>
    Packet.corresponds_self
      (show ¬ (Tag.signature = .publicKey ∨ Tag.signature = .publicSubkey) by decide)
  rw [publicPackets, secretPackets, boundPackets, boundPackets]
  refine .cons hKey (.cons hUserId (.cons (hSignature _) ?_))
  cases certificate.subkey with
  | none => exact .nil
  | some subkey => exact .cons (hSubkey subkey) (.cons (hSignature _) .nil)

/-- The certificate without its subkey. -/
def withoutSubkey (certificate : Certificate) : Certificate :=
  { certificate with subkey := none }

/-- What is bound without a subkey is bound first with one. -/
theorem boundPackets_withoutSubkey_isPrefix (certificate : Certificate)
    (subkeyPacket : EncryptionSubkey → Packet) :
    certificate.withoutSubkey.boundPackets subkeyPacket <+: certificate.boundPackets subkeyPacket := by
  rw [boundPackets, boundPackets]
  exact ⟨_, rfl⟩

/-- The certificate with modification detection advertised or not. -/
def detecting (certificate : Certificate) (detects : Bool) : Certificate :=
  { certificate with userId := ⟨certificate.userId.id, detects⟩ }

/-- Advertising modification detection is seen in the certification. -/
theorem encode_certification_inj {first second : Certificate}
    (h : first.certification.encode = second.certification.encode) :
    first.userId.detectsModification = second.userId.detectsModification := by
  have hFits : ∀ certificate : Certificate, certificate.certification.Fits := fun certificate =>
    certificate.key.fits_bound certificate.created _
      (Nat.lt_of_le_of_lt certificate.userId.encodedLengthAll_subpackets_le (by decide))
  have hDecode := Signature.decode_encode (hFits first)
  rw [h, Signature.decode_encode (hFits second)] at hDecode
  have hHashed := congrArg (fun signature => signature.statement.hashed) (Except.ok.inj hDecode)
  exact (UserId.subpackets_inj (List.cons.inj hHashed).2).symm

/-- Apart from the certification, no packet depends on it. -/
theorem publicPackets_detecting (certificate : Certificate) (detects : Bool) :
    (certificate.detecting detects).publicPackets = certificate.publicPackets.set 2
      ⟨.signature, (certificate.detecting detects).certification.encode⟩ := by
  rw [publicPackets, publicPackets, boundPackets, boundPackets]
  rfl

theorem secretPackets_detecting (certificate : Certificate) (detects : Bool) :
    (certificate.detecting detects).secretPackets = certificate.secretPackets.set 2
      ⟨.signature, (certificate.detecting detects).certification.encode⟩ := by
  rw [secretPackets, secretPackets, boundPackets, boundPackets]
  rfl

/-- Both streams are written, and are read as their packets. -/
theorem splitsInto_packets (certificate : Certificate)
    (hLength : certificate.userId.id.length ≤ 255) :
    Packet.SplitsInto (certificate.publicPackets.flatMap Packet.framed) certificate.publicPackets ∧
      Packet.SplitsInto (certificate.secretPackets.flatMap Packet.framed)
        certificate.secretPackets :=
  ⟨Packet.splitsInto_flatMap_framed (certificate.fits_publicPackets hLength),
    Packet.splitsInto_flatMap_framed (certificate.fits_secretPackets hLength)⟩

/-- The public and the secret stream agree packet by packet. Reading either one finds the packets of
the key, the user id and its certification, and those of the subkey and its binding if there is one.
The packets of user ids and signatures are the same in both, and the body of a public key is the
beginning of the secret body in its place, and not all of it. The streams without the subkey start
those with it. Whether modification detection is advertised changes the first signature, and nothing
else. -/
theorem publicBytes_agrees_secretBytes (certificate : Certificate)
    (hLength : certificate.userId.id.length ≤ 255) :
    ∃ publicOctets secretOctets publicPackets secretPackets,
      certificate.publicBytes.outcome = .ok publicOctets ∧
      certificate.secretBytes.outcome = .ok secretOctets ∧
      Packet.SplitsInto publicOctets publicPackets ∧
      Packet.SplitsInto secretOctets secretPackets ∧
      publicPackets.map Packet.tag = .publicKey :: .userId :: .signature ::
        (if certificate.subkey.isSome then [.publicSubkey, .signature] else []) ∧
      secretPackets.map Packet.tag = .secretKey :: .userId :: .signature ::
        (if certificate.subkey.isSome then [.secretSubkey, .signature] else []) ∧
      List.Forall₂ Packet.Corresponds publicPackets secretPackets ∧
      (∃ publicStart secretStart, certificate.withoutSubkey.publicBytes.outcome = .ok publicStart ∧
        certificate.withoutSubkey.secretBytes.outcome = .ok secretStart ∧
        publicStart <+: publicOctets ∧ secretStart <+: secretOctets) ∧
      ∀ detects, ∃ publicToggled secretToggled certification,
        (certificate.detecting detects).publicBytes.outcome = .ok publicToggled ∧
        (certificate.detecting detects).secretBytes.outcome = .ok secretToggled ∧
        Packet.SplitsInto publicToggled (publicPackets.set 2 ⟨.signature, certification⟩) ∧
        Packet.SplitsInto secretToggled (secretPackets.set 2 ⟨.signature, certification⟩) ∧
        (publicPackets[2]? = some ⟨.signature, certification⟩ →
          detects = certificate.userId.detectsModification) := by
  obtain ⟨hPublic, hSecret⟩ := certificate.splitsInto_packets hLength
  refine ⟨_, _, _, _, certificate.outcome_publicBytes hLength, outcome_secretBytes hLength, hPublic,
    hSecret, ?_, ?_, certificate.corresponds_packets, ?_, fun detects => ?_⟩
  · exact congrArg (Tag.publicKey :: ·) (certificate.tags_boundPackets fun _ => rfl)
  · exact congrArg (Tag.secretKey :: ·) (certificate.tags_boundPackets fun _ => rfl)
  · refine ⟨_, _, certificate.withoutSubkey.outcome_publicBytes hLength,
      outcome_secretBytes (by exact hLength),
      Packet.flatMap_framed_isPrefix ?_,
      Packet.flatMap_framed_isPrefix ?_⟩
    · exact (List.prefix_cons_inj _).mpr (certificate.boundPackets_withoutSubkey_isPrefix _)
    · exact (List.prefix_cons_inj _).mpr (certificate.boundPackets_withoutSubkey_isPrefix _)
  · obtain ⟨hToggled, hToggledSecret⟩ := (certificate.detecting detects).splitsInto_packets hLength
    refine ⟨_, _, (certificate.detecting detects).certification.encode,
      (certificate.detecting detects).outcome_publicBytes hLength,
      outcome_secretBytes (by exact hLength), ?_, ?_,
      fun hSame => ?_⟩
    · rwa [← publicPackets_detecting]
    · rwa [← secretPackets_detecting]
    · have hBody := congrArg Packet.body (Option.some.inj hSame)
      exact (encode_certification_inj hBody).symm

/-- A certificate with all that it can have, and the same one with nothing advertised. -/
theorem publicBytes_agrees_secretBytes_zero :
    ∃ publicOctets secretOctets publicPackets secretPackets plainOctets certification,
      (publicBytes ⟨.zero, ⟨[0x61], true⟩, some .zero⟩).outcome = .ok publicOctets ∧
      (secretBytes ⟨.zero, ⟨[0x61], true⟩, some .zero⟩).outcome = .ok secretOctets ∧
      (Packet.readAll (.ofOctets publicOctets)).packets = publicPackets ∧
      (Packet.readAll (.ofOctets secretOctets)).packets = secretPackets ∧
      publicPackets.map Packet.tag =
        [.publicKey, .userId, .signature, .publicSubkey, .signature] ∧
      secretPackets.map Packet.tag =
        [.secretKey, .userId, .signature, .secretSubkey, .signature] ∧
      List.Forall₂ Packet.Corresponds publicPackets secretPackets ∧
      (publicBytes ⟨.zero, ⟨[0x61], false⟩, some .zero⟩).outcome = .ok plainOctets ∧
      (Packet.readAll (.ofOctets plainOctets)).packets =
        publicPackets.set 2 ⟨.signature, certification⟩ ∧
      publicPackets[2]? ≠ some ⟨.signature, certification⟩ := by
  obtain ⟨publicOctets, secretOctets, publicPackets, secretPackets, hPublic, hSecret, hPublicSplit,
    hSecretSplit, hPublicTags, hSecretTags, hAgree, -, hDetects⟩ :=
      publicBytes_agrees_secretBytes ⟨.zero, ⟨[0x61], true⟩, some .zero⟩ (show 1 ≤ 255 by decide)
  obtain ⟨plainOctets, _, certification, hPlain, -, hPlainSplit, -, hSame⟩ := hDetects false
  have hRead : ∀ {octets packets}, Packet.SplitsInto octets packets →
      (Packet.readAll (.ofOctets octets)).packets = packets := fun hSplit =>
    (hSplit _ (Source.octets_ofOctets _) rfl).1
  exact ⟨publicOctets, secretOctets, publicPackets, secretPackets, plainOctets, certification, hPublic,
    hSecret, hRead hPublicSplit, hRead hSecretSplit, hPublicTags, hSecretTags, hAgree, hPlain,
    hRead hPlainSplit, fun h => Bool.noConfusion (hSame h)⟩

end Certificate

end PhraseKey
