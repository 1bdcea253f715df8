import PhraseKey.Proofs.KeyOfSeed
import PhraseKey.Proofs.KeyReading
import PhraseKey.Proofs.PacketReading

/-!
Keys that are stored and loaded again. Writing a secret drops its leading zeros and reverses the octets
of a subkey, reading pads, reverses and clamps it and derives the point anew, and the two cancel for
every secret.
-/

namespace PhraseKey

namespace SecretKey

/-- A secret of 32 octets at most leaves the body short. -/
theorem bodyLength_le {key : SecretKey} (small : key.secret.octets.length ≤ 32) :
    key.bodyLength ≤ 93 := by
  have hPublic := key.publicKey.encodedLength_le
  rw [bodyLength, Mpi.encodedLength]
  omega

/-- The body fits into a packet, and its length means the same to every reader. -/
theorem length_body_lt {key : SecretKey} (small : key.secret.octets.length ≤ 32) :
    key.body.length < 192 := by
  rw [length_body]
  exact Nat.lt_of_le_of_lt (bodyLength_le small) (by decide)

theorem fits_body {tag : Tag} {key : SecretKey} (tag_eq : .ofHeaderOctet tag.headerOctet = tag)
    (small : key.secret.octets.length ≤ 32) : Packet.Fits ⟨tag, key.body⟩ :=
  ⟨tag_eq, Nat.le_trans (Nat.le_of_lt (length_body_lt small)) (by decide)⟩

/-- The packet of a secret key, the warning aside. -/
theorem outcome_packet {tag : Tag} {key : SecretKey} (fits : Packet.Fits ⟨tag, key.body⟩) :
    (do let body ← key.encode; Packet.encode tag body : Logged (List UInt8)).outcome =
      .ok (Packet.framed ⟨tag, key.body⟩) := by
  rw [Logged.outcome_bind_of_ok (show key.encode.outcome = .ok key.body from rfl)]
  exact Packet.outcome_encode fits.length_le

end SecretKey

namespace SigningKey

theorem length_secret_le (key : SigningKey) : key.secretKey.secret.octets.length ≤ 32 := by
  have hLength := Mpi.length_ofOctets_le key.seed.toList
  rwa [key.seed.length_toList] at hLength

/-- The packet that a key is stored in. -/
def stored (key : SigningKey) : Packet :=
  ⟨.secretKey, key.secretKey.body⟩

theorem fits_stored (key : SigningKey) : key.stored.Fits :=
  SecretKey.fits_body rfl key.length_secret_le

theorem outcome_secretPacket (key : SigningKey) :
    key.secretPacket.outcome = .ok key.stored.framed :=
  SecretKey.outcome_packet key.fits_stored

/-- A packet whose body decodes to the fields of a key is read as that key. -/
theorem consumes_read_of_decode {key : SigningKey} {body : List UInt8}
    (hFits : Packet.Fits ⟨.secretKey, body⟩)
    (hDecode : SecretKey.decode .ed25519 body = .ok key.secretKey) :
    read.Consumes (Packet.framed ⟨.secretKey, body⟩) key := by
  have hSeed : key.secretKey.secret.padded 32 = .ok key.seed := Mpi.padded_ofOctets key.seed
  have hKey : (fromSeed key.seed key.secretKey.publicKey.created).outcome = .ok key := by
    rw [outcome_fromSeed]
    exact key.ofSeed_seed
  -- Only the packet takes octets off the source. What follows works on its body.
  refine (Packet.consumes_readTagged hFits).last ?_
  refine (Reading.consumes_ofExcept hDecode).after ?_
  refine (Reading.consumes_ofExcept hSeed).after ?_
  refine (Reading.consumes_ofLogged hKey).after ?_
  exact (Reading.consumes_ensure rfl _).after (Reading.consumes_pure key)

/-- A packet whose body does not decode is no key, for the same reason. -/
theorem fails_read_of_decode {body : List UInt8} {error : Error}
    (hFits : Packet.Fits ⟨.secretKey, body⟩)
    (hDecode : SecretKey.decode .ed25519 body = .error error) :
    read.Fails (Packet.framed ⟨.secretKey, body⟩) error :=
  (Packet.consumes_readTagged hFits).last_fails ((Reading.fails_ofExcept hDecode).bind _)

/-- The packet that a key is stored in is read as that key. -/
theorem consumes_read (key : SigningKey) : read.Consumes key.stored.framed key := by
  have hSmall := key.length_secret_le
  refine consumes_read_of_decode key.fits_stored ?_
  rw [← key.curve_eq]
  exact key.secretKey.decode_body (by omega)

end SigningKey

namespace EncryptionSubkey

theorem length_secret_le (key : EncryptionSubkey) : key.secretKey.secret.octets.length ≤ 32 := by
  have hLength := Mpi.length_ofOctets_le key.secret.reverse.toList
  rwa [key.secret.reverse.length_toList] at hLength

/-- The packet that a subkey is stored in. -/
def stored (key : EncryptionSubkey) : Packet :=
  ⟨.secretSubkey, key.secretKey.body⟩

theorem fits_stored (key : EncryptionSubkey) : key.stored.Fits :=
  SecretKey.fits_body rfl key.length_secret_le

theorem outcome_secretPacket (key : EncryptionSubkey) :
    key.secretPacket.outcome = .ok key.stored.framed :=
  SecretKey.outcome_packet key.fits_stored

/-- A packet whose body decodes to the fields of a subkey is read as that subkey. -/
theorem consumes_read_of_decode {key : EncryptionSubkey} {body : List UInt8}
    (hFits : Packet.Fits ⟨.secretSubkey, body⟩)
    (hDecode : SecretKey.decode .curve25519 body = .ok key.secretKey) :
    read.Consumes (Packet.framed ⟨.secretSubkey, body⟩) key := by
  have hSecret : key.secretKey.secret.padded 32 = .ok key.secret.reverse :=
    Mpi.padded_ofOctets key.secret.reverse
  have hKey : (fromSeed key.secret.reverse.reverse key.secretKey.publicKey.created).outcome =
      .ok key := by
    rw [outcome_fromSeed, Octets.reverse_reverse]
    exact key.ofSeed_secret
  refine (Packet.consumes_readTagged hFits).last ?_
  refine (Reading.consumes_ofExcept hDecode).after ?_
  refine (Reading.consumes_ofExcept hSecret).after ?_
  refine (Reading.consumes_log rfl).after ?_
  refine (Reading.consumes_ofLogged hKey).after ?_
  exact (Reading.consumes_ensure rfl _).after (Reading.consumes_pure key)

/-- A packet whose body does not decode is no subkey, for the same reason. -/
theorem fails_read_of_decode {body : List UInt8} {error : Error}
    (hFits : Packet.Fits ⟨.secretSubkey, body⟩)
    (hDecode : SecretKey.decode .curve25519 body = .error error) :
    read.Fails (Packet.framed ⟨.secretSubkey, body⟩) error :=
  (Packet.consumes_readTagged hFits).last_fails ((Reading.fails_ofExcept hDecode).bind _)

/-- The packet that a subkey is stored in is read as that subkey. -/
theorem consumes_read (key : EncryptionSubkey) : read.Consumes key.stored.framed key := by
  have hSmall := key.length_secret_le
  refine consumes_read_of_decode key.fits_stored ?_
  rw [← key.curve_eq]
  exact key.secretKey.decode_body (by omega)

end EncryptionSubkey

/-- Saving a key and loading it again gives the same key, with its secret, its public part and its
fingerprint. Whatever follows the packet stays in the source, in whatever pieces it is delivered. -/
theorem read_secretPacket (key : SigningKey) (subkey : EncryptionSubkey) :
    (∃ packet, key.secretPacket.outcome = .ok packet ∧
      ∀ source rest, source.octets = packet ++ rest →
        (SigningKey.read.run source).1.outcome = .ok key ∧
          (SigningKey.read.run source).2.octets = rest) ∧
    (∃ packet, subkey.secretPacket.outcome = .ok packet ∧
      ∀ source rest, source.octets = packet ++ rest →
        (EncryptionSubkey.read.run source).1.outcome = .ok subkey ∧
          (EncryptionSubkey.read.run source).2.octets = rest) := by
  constructor
  · refine ⟨key.stored.framed, key.outcome_secretPacket, ?_⟩
    intro source rest hOctets
    obtain ⟨hKey, hRest, -⟩ := key.consumes_read source rest hOctets
    exact ⟨hKey, hRest⟩
  · refine ⟨subkey.stored.framed, subkey.outcome_secretPacket, ?_⟩
    intro source rest hOctets
    obtain ⟨hKey, hRest, -⟩ := subkey.consumes_read source rest hOctets
    exact ⟨hKey, hRest⟩

/-- The seed of zeros is stored as an integer without octets, and its keys come back from sources that
go on behind the packet. -/
theorem read_secretPacket_zero :
    (∃ packet, SigningKey.zero.secretPacket.outcome = .ok packet ∧
      (SigningKey.read.run (.ofOctets (packet ++ [0xFF]))).1.outcome = .ok .zero ∧
        (SigningKey.read.run (.ofOctets (packet ++ [0xFF]))).2.octets = [0xFF]) ∧
    (∃ packet, EncryptionSubkey.zero.secretPacket.outcome = .ok packet ∧
      (EncryptionSubkey.read.run (.ofOctets packet)).1.outcome = .ok .zero ∧
        (EncryptionSubkey.read.run (.ofOctets packet)).2.octets = []) := by
  obtain ⟨⟨packet, hPacket, hRead⟩, subpacket, hSubpacket, hReadSub⟩ :=
    read_secretPacket .zero .zero
  have hOctets : (Source.ofOctets subpacket).octets = subpacket ++ [] := by
    rw [Source.octets_ofOctets, List.append_nil]
  exact ⟨⟨packet, hPacket, hRead _ [0xFF] (Source.octets_ofOctets _)⟩,
    subpacket, hSubpacket, hReadSub _ [] hOctets⟩

end PhraseKey
