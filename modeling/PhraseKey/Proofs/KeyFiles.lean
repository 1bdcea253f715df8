import PhraseKey.Proofs.Certification
import PhraseKey.Proofs.KeyLoading

/-!
Key files. The two packets at the front of every secret stream are those of a key file, and make up a
certificate without a subkey and without anything advertised. Such a certificate is stored as it is, so
what was loaded once comes back unchanged from then on.
-/

namespace PhraseKey

namespace UserId

/-- The packet of a user id is read back, with nothing advertised. -/
theorem consumes_read {id : List UInt8} (hLength : id.length ≤ 255) :
    read.Consumes (Packet.framed ⟨.userId, id⟩) (.plain id) :=
  (Packet.consumes_readTagged (fits_packet hLength)).last (Reading.consumes_pure _)

/-- A user id that was read fits into a packet, and nothing is advertised with it. -/
theorem accepts_read :
    read.Accepts fun _ userId => userId.id.length ≤ 255 ∧ userId = .plain userId.id := by
  refine (Packet.accepts_readTagged _).bind ?_
  rintro _ id ⟨rfl, hFits⟩
  exact Reading.accepts_pure ⟨hFits.length_le, rfl⟩

/-- A long user id has no packet. -/
theorem outcome_packet_of_lt {userId : UserId} (hLong : 255 < userId.id.length) :
    userId.packet.outcome = .error (.oversizedBody userId.id.length 255) :=
  Packet.outcome_encode_of_lt hLong

end UserId

namespace Certificate

/-- What a key file keeps of a certificate. -/
def kept (certificate : Certificate) : Certificate :=
  ⟨certificate.key, .plain certificate.userId.id, none⟩

/-- The packets of a key file. -/
def keyFilePackets (certificate : Certificate) : List Packet :=
  [certificate.key.stored, ⟨.userId, certificate.userId.id⟩]

/-- The packets of a secret stream. -/
def secretPackets (certificate : Certificate) : List Packet :=
  certificate.key.stored :: certificate.boundPackets EncryptionSubkey.stored

/-- Every secret stream starts with a key file. -/
theorem secretPackets_eq (certificate : Certificate) :
    ∃ bound, certificate.secretPackets = certificate.keyFilePackets ++ bound :=
  ⟨_, rfl⟩

theorem flatMap_framed_keyFilePackets (certificate : Certificate) :
    certificate.keyFilePackets.flatMap Packet.framed =
      certificate.key.stored.framed ++ Packet.framed ⟨.userId, certificate.userId.id⟩ := by
  simp [keyFilePackets]

theorem outcome_keyFile {certificate : Certificate} (hLength : certificate.userId.id.length ≤ 255) :
    certificate.keyFile.outcome = .ok (certificate.keyFilePackets.flatMap Packet.framed) := by
  rw [keyFile, Logged.outcome_bind_of_ok certificate.key.outcome_secretPacket,
    Logged.outcome_bind_of_ok (UserId.outcome_packet hLength), flatMap_framed_keyFilePackets]
  rfl

theorem outcome_secretBytes {certificate : Certificate}
    (hLength : certificate.userId.id.length ≤ 255) :
    certificate.secretBytes.outcome = .ok (certificate.secretPackets.flatMap Packet.framed) := by
  rw [secretBytes, Logged.outcome_bind_of_ok certificate.key.outcome_secretPacket,
    Logged.outcome_bind_of_ok (certificate.outcome_bindings hLength
      EncryptionSubkey.outcome_secretPacket)]
  rfl

/-- A key file is read back to its end, and no further. -/
theorem consumes_readKeyFile {certificate : Certificate}
    (hLength : certificate.userId.id.length ≤ 255) :
    readKeyFile.Consumes (certificate.keyFilePackets.flatMap Packet.framed) certificate.kept := by
  rw [flatMap_framed_keyFilePackets]
  refine certificate.key.consumes_read.bind ((UserId.consumes_read hLength).last ?_)
  exact (Reading.consumes_log rfl).after (Reading.consumes_pure _)

/-- A certificate that was loaded is kept as a whole. -/
theorem accepts_readKeyFile :
    readKeyFile.Accepts fun _ certificate =>
      certificate.userId.id.length ≤ 255 ∧ certificate.kept = certificate := by
  refine SigningKey.accepts_read.bind fun _ key _ => ?_
  refine UserId.accepts_read.bind fun _ userId hUserId => ?_
  refine (Reading.accepts_ofLogged _).after fun _ _ => ?_
  refine Reading.accepts_pure ⟨hUserId.1, ?_⟩
  rw [kept, ← hUserId.2]

/-- A long user id leaves no bindings. -/
theorem outcome_bindings_of_lt {certificate : Certificate}
    (hLong : 255 < certificate.userId.id.length)
    (subkeyPacket : EncryptionSubkey → Logged (List UInt8)) :
    (certificate.bindings subkeyPacket).outcome =
      .error (.oversizedBody certificate.userId.id.length 255) := by
  rw [bindings, Logged.outcome_bind_of_error (UserId.outcome_packet_of_lt hLong)]

/-- Nothing that writes a long user id succeeds. -/
theorem outcome_keyFile_of_lt {certificate : Certificate}
    (hLong : 255 < certificate.userId.id.length) :
    certificate.keyFile.outcome = .error (.oversizedBody certificate.userId.id.length 255) := by
  rw [keyFile, Logged.outcome_bind_of_ok certificate.key.outcome_secretPacket,
    Logged.outcome_bind_of_error (UserId.outcome_packet_of_lt hLong)]

theorem outcome_publicBytes_of_lt {certificate : Certificate}
    (hLong : 255 < certificate.userId.id.length) :
    certificate.publicBytes.outcome = .error (.oversizedBody certificate.userId.id.length 255) := by
  rw [publicBytes, Logged.outcome_bind_of_ok certificate.key.outcome_publicPacket,
    Logged.outcome_bind_of_error (outcome_bindings_of_lt hLong _)]

theorem outcome_secretBytes_of_lt {certificate : Certificate}
    (hLong : 255 < certificate.userId.id.length) :
    certificate.secretBytes.outcome = .error (.oversizedBody certificate.userId.id.length 255) := by
  rw [secretBytes, Logged.outcome_bind_of_ok certificate.key.outcome_secretPacket,
    Logged.outcome_bind_of_error (outcome_bindings_of_lt hLong _)]

/-- Key files are a fixed point of loading and saving. A key file, at the front of a secret stream or
anywhere else, is loaded as what it keeps of its certificate, and nothing behind it is consumed. A
certificate that was loaded is saved in streams that load as the same certificate again. A user id that
is too long for a packet is refused by everything that writes it, and does not matter for signing. -/
theorem readKeyFile_saved :
    (∀ certificate : Certificate, certificate.userId.id.length ≤ 255 →
      ∃ file bound, certificate.keyFile.outcome = .ok file ∧
        certificate.secretBytes.outcome = .ok (file ++ bound) ∧
        ∀ source rest,
          (source.octets = file ++ rest →
            (readKeyFile.run source).1.outcome =
              .ok ⟨certificate.key, ⟨certificate.userId.id, false⟩, none⟩ ∧
            (readKeyFile.run source).2.octets = rest) ∧
          (source.octets = file ++ bound ++ rest →
            (readKeyFile.run source).1.outcome =
              .ok ⟨certificate.key, ⟨certificate.userId.id, false⟩, none⟩ ∧
            (readKeyFile.run source).2.octets = bound ++ rest)) ∧
    (∀ source certificate, (readKeyFile.run source).1.outcome = .ok certificate →
      ∃ file secret bytes, certificate.keyFile.outcome = .ok file ∧
        certificate.secretBytes.outcome = .ok secret ∧ certificate.publicBytes.outcome = .ok bytes ∧
        ∀ saved rest, saved.octets = secret ++ rest →
          ∃ again, (readKeyFile.run saved).1.outcome = .ok again ∧ again = certificate ∧
            again.keyFile.outcome = .ok file ∧ again.secretBytes.outcome = .ok secret ∧
            again.publicBytes.outcome = .ok bytes ∧
            ∀ document, again.sign.run document = certificate.sign.run document) ∧
    (∀ certificate : Certificate, 255 < certificate.userId.id.length →
      let error := Error.oversizedBody certificate.userId.id.length 255
      error.kind = .encoding ∧ certificate.keyFile.outcome = .error error ∧
        certificate.publicBytes.outcome = .error error ∧
        certificate.secretBytes.outcome = .error error ∧
        ∀ document, document.ending = .endOfData →
          ∃ signature, (certificate.sign.run document).1.outcome = .ok signature) := by
  refine ⟨fun certificate hLength => ?_, fun source certificate hRead => ?_,
    fun certificate hLong => ?_⟩
  · obtain ⟨bound, hBound⟩ := certificate.secretPackets_eq
    have hSecret := outcome_secretBytes hLength
    rw [hBound, List.flatMap_append] at hSecret
    refine ⟨_, _, outcome_keyFile hLength, hSecret, fun source rest => ⟨fun hOctets => ?_,
      fun hOctets => ?_⟩⟩
    · obtain ⟨hKept, hRest, -⟩ := consumes_readKeyFile hLength source rest hOctets
      exact ⟨hKept, hRest⟩
    · rw [List.append_assoc] at hOctets
      obtain ⟨hKept, hRest, -⟩ := consumes_readKeyFile hLength source _ hOctets
      exact ⟨hKept, hRest⟩
  · obtain ⟨-, -, hLength, hKept⟩ := accepts_readKeyFile source certificate hRead
    have hFile := outcome_keyFile hLength
    have hSecret := outcome_secretBytes hLength
    have hPublic := certificate.outcome_publicBytes hLength
    refine ⟨_, _, _, hFile, hSecret, hPublic, fun saved rest hOctets => ?_⟩
    obtain ⟨bound, hBound⟩ := certificate.secretPackets_eq
    rw [hBound, List.flatMap_append, List.append_assoc] at hOctets
    obtain ⟨hAgain, -, -⟩ := consumes_readKeyFile hLength saved _ hOctets
    rw [hKept] at hAgain
    exact ⟨certificate, hAgain, rfl, hFile, hSecret, hPublic, fun _ => rfl⟩
  · exact ⟨rfl, outcome_keyFile_of_lt hLong, outcome_publicBytes_of_lt hLong,
      outcome_secretBytes_of_lt hLong, fun _ hEnding => ⟨_, certificate.key.outcome_sign hEnding⟩⟩

/-- A certificate with all that it can have loses it in its key file. What was loaded does not. A user
id of 256 octets is too long. -/
theorem readKeyFile_saved_zero :
    (∃ file bound, (secretBytes ⟨.zero, ⟨[0x61], true⟩, some .zero⟩).outcome = .ok (file ++ bound) ∧
      (readKeyFile.run (.ofOctets (file ++ bound))).1.outcome = .ok ⟨.zero, ⟨[0x61], false⟩, none⟩ ∧
      (readKeyFile.run (.ofOctets (file ++ bound))).2.octets = bound ∧
      ∃ secret, (secretBytes ⟨.zero, ⟨[0x61], false⟩, none⟩).outcome = .ok secret ∧
        (readKeyFile.run (.ofOctets secret)).1.outcome = .ok ⟨.zero, ⟨[0x61], false⟩, none⟩) ∧
    (keyFile ⟨.zero, ⟨List.replicate 256 0x61, false⟩, none⟩).outcome =
      .error (.oversizedBody 256 255) := by
  obtain ⟨hSaved, hLoaded, hLong⟩ := readKeyFile_saved
  constructor
  · obtain ⟨file, bound, -, hSecret, hRead⟩ :=
      hSaved ⟨.zero, ⟨[0x61], true⟩, some .zero⟩ (show 1 ≤ 255 by decide)
    obtain ⟨hKept, hRest⟩ := (hRead _ []).2 (Source.octets_ofOctets_nil (file ++ bound))
    rw [List.append_nil] at hRest
    obtain ⟨_, secret, _, -, hAgain, -, hReload⟩ := hLoaded _ _ hKept
    obtain ⟨_, hOutcome, rfl, -⟩ := hReload _ [] (Source.octets_ofOctets_nil secret)
    exact ⟨file, bound, hSecret, hKept, hRest, secret, hAgain, hOutcome⟩
  · have hLength : (List.replicate 256 (0x61 : UInt8)).length = 256 := List.length_replicate
    obtain ⟨-, hFile, -⟩ := hLong ⟨.zero, ⟨List.replicate 256 0x61, false⟩, none⟩ (by
      change 255 < (List.replicate 256 (0x61 : UInt8)).length
      rw [hLength]
      decide)
    dsimp only at hFile
    rwa [hLength] at hFile

end Certificate

end PhraseKey
