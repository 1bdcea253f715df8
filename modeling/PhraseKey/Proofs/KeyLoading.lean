import PhraseKey.Proofs.KeyAcceptance
import PhraseKey.Proofs.KeyStorage
import PhraseKey.Proofs.PacketAcceptance

/-!
Keys that were loaded. Whatever a source holds, a key comes from one packet of it, is the key of the
secret that is stored there, and has the point that is stored there. If the integers of the packet are
canonical, it is the packet that the key would be stored in again.
-/

namespace PhraseKey

/-- The packet has these fields, and they are those of the public part. -/
structure StoredKey.InPacket (stored : StoredKey) (curve : Curve) (header : UInt8)
    (publicKey : PublicKey) (packet : List UInt8) : Prop where
  framed_eq : ∃ length : UInt8, packet = header :: length :: stored.body curve ∧
    (stored.body curve).length = length.toNat
  created_eq : ((stored.body curve).drop 1).take 4 = publicKey.created.encode
  point_eq : stored.point.value.octets = 0x40 :: publicKey.point.toList

namespace StoredKey

theorem take_created (curve : Curve) (stored : StoredKey) :
    ((stored.body curve).drop 1).take 4 = stored.created.encode := by
  have hLength : stored.created.encode.length = 4 := stored.created.length_encode
  rw [body, publicPart]
  exact List.take_left' hLength

theorem inPacket_of_holds {curve : Curve} {stored : StoredKey} {key : SecretKey} {tag : Tag}
    (holds : stored.Holds key) (hFits : Packet.Fits ⟨tag, stored.body curve⟩) :
    stored.InPacket curve tag.headerOctet key.publicKey (Packet.framed ⟨tag, stored.body curve⟩) where
  framed_eq := ⟨UInt8.ofNat (stored.body curve).length, rfl, hFits.toNat_length.symm⟩
  created_eq := by rw [take_created, holds.created_eq]
  point_eq := by rw [holds.point_eq, PublicKey.octets_pointMpi]; rfl

/-- The packet of a key that was written has the fields of that key. -/
theorem InPacket.eq_fields {stored : StoredKey} {curve : Curve} {header : UInt8}
    {publicKey : PublicKey} {tag : Tag} {key : SecretKey}
    (hPacket : stored.InPacket curve header publicKey (Packet.framed ⟨tag, key.body⟩))
    (hCurve : key.publicKey.curve = curve) (small : key.secret.octets.length ≤ 64) :
    stored = key.fields small := by
  subst hCurve
  obtain ⟨length, hFramed, -⟩ := hPacket.framed_eq
  simp only [Packet.framed, PacketHeader.encode, List.cons_append, List.nil_append,
    List.cons.injEq] at hFramed
  apply body_inj
  rw [key.body_fields small, hFramed.2.2]

end StoredKey

theorem PublicKey.eq_of_fingerprint_eq_error {key : PublicKey} {error : Error}
    (h : key.fingerprint = .error error) : error = .sha1Collision := by
  rw [fingerprint, Fingerprint.ofPreimage] at h
  split at h
  · cases h
  · cases h
    rfl

namespace SigningKey

/-- The key of a seed has that seed and creation time. -/
theorem eq_of_ofSeed_eq_ok {seed : Octets 32} {created : Timestamp} {key : SigningKey}
    (h : ofSeed seed created = .ok key) : key.seed = seed ∧ key.created = created := by
  cases hFingerprint : (PublicKey.mk created .ed25519 (Ed25519.publicKey seed)).fingerprint with
  | error error =>
      rw [ofSeed, Outcome.attach_of_error hFingerprint] at h
      cases h
  | ok fingerprint =>
      rw [ofSeed, Outcome.attach_of_ok hFingerprint] at h
      obtain rfl := Except.ok.inj h
      exact ⟨rfl, rfl⟩

/-- A seed has a key unless that has no fingerprint. -/
theorem eq_of_ofSeed_eq_error {seed : Octets 32} {created : Timestamp} {error : Error}
    (h : ofSeed seed created = .error error) : error = .sha1Collision :=
  PublicKey.eq_of_fingerprint_eq_error (Outcome.eq_error_of_map_attach h)

/-- A key is read from the packet of its fields, and it is the key of the secret among them. -/
theorem accepts_read :
    read.Accepts fun packet key => ∃ (stored : StoredKey) (seed : Octets 32),
      stored.InPacket .ed25519 0xC5 key.publicKey packet ∧
      stored.secret.value.padded 32 = .ok seed ∧
      ofSeed seed key.created = .ok key ∧
      (stored.point.Canonical → stored.secret.Canonical → packet = key.stored.framed) := by
  refine (Packet.accepts_readTagged _).bind ?_
  rintro _ body ⟨rfl, hFits⟩
  refine (Reading.accepts_ofExcept _).after fun found hDecode => ?_
  obtain ⟨hCurve, stored, rfl, hHolds⟩ := SecretKey.exists_of_decode_eq_ok hDecode
  refine (Reading.accepts_ofExcept _).after fun seed hSeed => ?_
  refine (Reading.accepts_ofLogged _).after fun key hFromSeed => ?_
  have hKey : ofSeed seed found.publicKey.created = .ok key :=
    (outcome_fromSeed seed found.publicKey.created).symm.trans hFromSeed
  refine (Reading.accepts_ensure _ _).after fun _ hPublic => ?_
  obtain ⟨hOwnSeed, hCreated⟩ := eq_of_ofSeed_eq_ok hKey
  have hFound : found = key.secretKey := by
    have hSecret : Mpi.ofOctets seed.toList = found.secret := Mpi.ofOctets_of_padded hSeed
    rw [secretKey, hPublic, hOwnSeed, hSecret]
  refine Reading.accepts_pure ?_
  rw [List.append_nil]
  refine ⟨stored, seed, ?_, ?_, ?_, fun hPoint hSecret => ?_⟩
  · rw [hPublic]
    exact StoredKey.inPacket_of_holds hHolds hFits
  · rw [hHolds.secret_eq]
    exact hSeed
  · rwa [hCreated]
  · rw [SigningKey.stored, ← hFound, StoredKey.body_eq hHolds hCurve hPoint hSecret]

end SigningKey

/-- A secret is clamped before it is used, so it makes no difference if it already was. -/
theorem X25519.publicKey_clamp (secret : Octets 32) :
    publicKey (Curve25519.clamp secret) = publicKey secret := by
  simp only [publicKey, Curve25519.clamp_clamp]

namespace EncryptionSubkey

/-- The subkey of a seed has that seed, clamped, and that creation time. -/
theorem eq_of_ofSeed_eq_ok {seed : Octets 32} {created : Timestamp} {key : EncryptionSubkey}
    (h : ofSeed seed created = .ok key) :
    key.secret = Curve25519.clamp seed ∧ key.created = created := by
  cases hFingerprint : (PublicKey.mk created .curve25519
      (X25519.publicKey (Curve25519.clamp seed))).fingerprint with
  | error error =>
      rw [ofSeed, Outcome.attach_of_error hFingerprint] at h
      cases h
  | ok fingerprint =>
      rw [ofSeed, Outcome.attach_of_ok hFingerprint] at h
      obtain rfl := Except.ok.inj h
      exact ⟨rfl, rfl⟩

theorem eq_of_ofSeed_eq_error {seed : Octets 32} {created : Timestamp} {error : Error}
    (h : ofSeed seed created = .error error) : error = .sha1Collision :=
  PublicKey.eq_of_fingerprint_eq_error (Outcome.eq_error_of_map_attach h)

/-- A subkey is read from the packet of its fields, and it is the subkey of the secret among them, most
significant octet first. -/
theorem accepts_read :
    read.Accepts fun packet key => ∃ (stored : StoredKey) (secret : Octets 32),
      stored.InPacket .curve25519 0xC7 key.publicKey packet ∧
      stored.secret.value.padded 32 = .ok secret ∧
      ofSeed secret.reverse key.created = .ok key ∧
      (Curve25519.clamp secret.reverse = secret.reverse → stored.point.Canonical →
        stored.secret.Canonical → packet = key.stored.framed) := by
  refine (Packet.accepts_readTagged _).bind ?_
  rintro _ body ⟨rfl, hFits⟩
  refine (Reading.accepts_ofExcept _).after fun found hDecode => ?_
  obtain ⟨hCurve, stored, rfl, hHolds⟩ := SecretKey.exists_of_decode_eq_ok hDecode
  refine (Reading.accepts_ofExcept _).after fun secret hSecret => ?_
  refine (Reading.accepts_ofLogged _).after fun _ _ => ?_
  refine (Reading.accepts_ofLogged _).after fun key hFromSeed => ?_
  have hKey : ofSeed secret.reverse found.publicKey.created = .ok key :=
    (outcome_fromSeed secret.reverse found.publicKey.created).symm.trans hFromSeed
  refine (Reading.accepts_ensure _ _).after fun _ hPublic => ?_
  obtain ⟨hOwnSecret, hCreated⟩ := eq_of_ofSeed_eq_ok hKey
  refine Reading.accepts_pure ?_
  rw [List.append_nil]
  refine ⟨stored, secret, ?_, ?_, ?_, fun hClamped hPoint hCanonical => ?_⟩
  · rw [hPublic]
    exact StoredKey.inPacket_of_holds hHolds hFits
  · rw [hHolds.secret_eq]
    exact hSecret
  · rwa [hCreated]
  · have hFound : found = key.secretKey := by
      have hValue : Mpi.ofOctets secret.toList = found.secret := Mpi.ofOctets_of_padded hSecret
      rw [secretKey, hPublic, hOwnSecret, hClamped, Octets.reverse_reverse, hValue]
    rw [EncryptionSubkey.stored, ← hFound, StoredKey.body_eq hHolds hCurve hPoint hCanonical]

end EncryptionSubkey

/-- Loading is sound. A key that is read from a source was stored in the one packet that was consumed:
its creation time and its point stand there, the point is that of the stored secret, and the key is the
one of the stored secret and creation time. If both integers are canonical, and the secret of a subkey
is clamped, then saving the key gives back what was consumed. -/
theorem read_sound (source : Source) :
    (∀ key, (SigningKey.read.run source).1.outcome = .ok key →
      ∃ (packet : List UInt8) (stored : StoredKey) (seed : Octets 32),
        source.octets = packet ++ (SigningKey.read.run source).2.octets ∧
        stored.InPacket .ed25519 0xC5 key.publicKey packet ∧
        stored.secret.value.padded 32 = .ok seed ∧
        key.publicKey.point = Ed25519.publicKey seed ∧
        (SigningKey.fromSeed seed key.created).outcome = .ok key ∧
        (stored.point.Canonical → stored.secret.Canonical →
          key.secretPacket.outcome = .ok packet)) ∧
    (∀ key, (EncryptionSubkey.read.run source).1.outcome = .ok key →
      ∃ (packet : List UInt8) (stored : StoredKey) (secret : Octets 32),
        source.octets = packet ++ (EncryptionSubkey.read.run source).2.octets ∧
        stored.InPacket .curve25519 0xC7 key.publicKey packet ∧
        stored.secret.value.padded 32 = .ok secret ∧
        key.publicKey.point = X25519.publicKey secret.reverse ∧
        (EncryptionSubkey.fromSeed secret.reverse key.created).outcome = .ok key ∧
        (Curve25519.clamp secret.reverse = secret.reverse → stored.point.Canonical →
          stored.secret.Canonical → key.secretPacket.outcome = .ok packet)) := by
  constructor
  · intro key hRead
    obtain ⟨packet, hOctets, stored, seed, hPacket, hSeed, hKey, hCanonical⟩ :=
      SigningKey.accepts_read source key hRead
    refine ⟨packet, stored, seed, hOctets, hPacket, hSeed, ?_, ?_, fun hPoint hSecret => ?_⟩
    · rw [key.point_eq, (SigningKey.eq_of_ofSeed_eq_ok hKey).1]
    · rw [SigningKey.outcome_fromSeed, hKey]
    · rw [hCanonical hPoint hSecret, key.outcome_secretPacket]
  · intro key hRead
    obtain ⟨packet, hOctets, stored, secret, hPacket, hSecret, hKey, hCanonical⟩ :=
      EncryptionSubkey.accepts_read source key hRead
    refine ⟨packet, stored, secret, hOctets, hPacket, hSecret, ?_, ?_,
      fun hClamped hPoint hStored => ?_⟩
    · rw [key.point_eq, (EncryptionSubkey.eq_of_ofSeed_eq_ok hKey).1, X25519.publicKey_clamp]
    · rw [EncryptionSubkey.outcome_fromSeed, hKey]
    · rw [hCanonical hClamped hPoint hStored, key.outcome_secretPacket]

/-- The packets of the seed of zeros are canonical, and are written again as they were read. -/
theorem read_sound_zero :
    (∃ (packet : List UInt8) (stored : StoredKey),
      stored.InPacket .ed25519 0xC5 SigningKey.zero.publicKey packet ∧
      stored.point.Canonical ∧ stored.secret.Canonical ∧
      (SigningKey.fromSeed zeroSeed .epoch).outcome = .ok .zero ∧
      SigningKey.zero.secretPacket.outcome = .ok packet) ∧
    (∃ (packet : List UInt8) (stored : StoredKey),
      stored.InPacket .curve25519 0xC7 EncryptionSubkey.zero.publicKey packet ∧
      stored.point.Canonical ∧ stored.secret.Canonical ∧
      (EncryptionSubkey.fromSeed (Curve25519.clamp zeroSeed) .epoch).outcome = .ok .zero ∧
      EncryptionSubkey.zero.secretPacket.outcome = .ok packet) := by
  constructor
  · have hSource := Source.octets_ofOctets (SigningKey.zero.stored.framed ++ [0xFF])
    obtain ⟨hRead, hLeft, -⟩ := SigningKey.zero.consumes_read _ _ hSource
    obtain ⟨packet, stored, seed, hOctets, hPacket, hSeed, -, hKey, hCanonical⟩ :=
      (read_sound (.ofOctets (SigningKey.zero.stored.framed ++ [0xFF]))).1 .zero hRead
    rw [hSource, hLeft] at hOctets
    obtain rfl := List.append_cancel_right hOctets
    have hSmall : SigningKey.zero.secretKey.secret.octets.length ≤ 64 :=
      Nat.le_trans SigningKey.zero.length_secret_le (by decide)
    obtain rfl := hPacket.eq_fields rfl hSmall
    obtain rfl := Except.ok.inj (hSeed.symm.trans (Mpi.padded_ofOctets zeroSeed))
    have hPoint := StoredMpi.canonical_ofMpi _
      SigningKey.zero.secretKey.publicKey.length_octets_pointMpi_le
    have hSecret := StoredMpi.canonical_ofMpi _ hSmall
    exact ⟨_, _, hPacket, hPoint, hSecret, hKey, hCanonical hPoint hSecret⟩
  · have hSource := Source.octets_ofOctets (EncryptionSubkey.zero.stored.framed ++ [0xFF])
    obtain ⟨hRead, hLeft, -⟩ := EncryptionSubkey.zero.consumes_read _ _ hSource
    obtain ⟨packet, stored, secret, hOctets, hPacket, hSecretEq, -, hKey, hCanonical⟩ :=
      (read_sound (.ofOctets (EncryptionSubkey.zero.stored.framed ++ [0xFF]))).2 .zero hRead
    rw [hSource, hLeft] at hOctets
    obtain rfl := List.append_cancel_right hOctets
    have hSmall : EncryptionSubkey.zero.secretKey.secret.octets.length ≤ 64 :=
      Nat.le_trans EncryptionSubkey.zero.length_secret_le (by decide)
    obtain rfl := hPacket.eq_fields rfl hSmall
    obtain rfl := Except.ok.inj (hSecretEq.symm.trans
      (Mpi.padded_ofOctets (Curve25519.clamp zeroSeed).reverse))
    have hPoint := StoredMpi.canonical_ofMpi _
      EncryptionSubkey.zero.secretKey.publicKey.length_octets_pointMpi_le
    have hSecret := StoredMpi.canonical_ofMpi _ hSmall
    rw [Octets.reverse_reverse] at hKey hCanonical
    exact ⟨_, _, hPacket, hPoint, hSecret, hKey,
      hCanonical (Curve25519.clamp_clamp zeroSeed) hPoint hSecret⟩

end PhraseKey
