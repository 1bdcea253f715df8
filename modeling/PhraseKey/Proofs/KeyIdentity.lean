import PhraseKey.Proofs.Certification
import PhraseKey.Proofs.HashInput

/-!
Public parts of keys as their identity. A public part is read back on its own curve and refused on the
other one, so it is known from its octets, and from what is hashed for its fingerprint. That is the body of
the packet the key is published in, behind a prefix and its length.
-/

namespace PhraseKey

/-- No algorithm is that of both curves. -/
theorem Curve.algorithm_injective : Function.Injective Curve.algorithm := by
  intro a b h
  cases a <;> cases b <;> first | rfl | cases h

namespace PublicKey

/-- A prefix, the length of a body in two octets, and the body. -/
def IsPreimageOf (preimage body : List UInt8) : Prop :=
  ∃ length : Octets 2, preimage = 0x99 :: length.toList ++ body ∧
    ofBigEndian length.toList = body.length

/-- The length of a public part does not wrap. -/
theorem isPreimageOf_preimage (key : PublicKey) : IsPreimageOf key.preimage key.encode := by
  refine ⟨⟨bigEndian 2 key.encodedLength, length_bigEndian ..⟩, rfl, ?_⟩
  rw [ofBigEndian_bigEndian, length_encode]
  exact Nat.mod_eq_of_lt (Nat.lt_of_le_of_lt key.encodedLength_le (by decide))

/-- On the other curve a public part is refused at its algorithm. -/
theorem refuses_encode (key : PublicKey) {curve : Curve} (hOther : curve ≠ key.curve) :
    (parse curve).Refuses ([version] ++ (key.created.encode ++ ([key.curve.algorithm.id] ++ [])))
      (.unexpectedAlgorithm curve.algorithm key.curve.algorithm) := by
  have hAlgorithm : ¬ key.curve.algorithm = curve.algorithm := fun h =>
    hOther (Curve.algorithm_injective h).symm
  refine (Parser.reads_u8 _ version).bind_refuses ?_
  rw [Parser.ensure_eq_pure rfl, pure_bind]
  refine (Parser.reads_u32 _ key.created.seconds).bind_refuses ?_
  refine (Parser.reads_u8 _ key.curve.algorithm.id).bind_refuses ?_
  dsimp only
  rw [key.curve.ofId_algorithm]
  exact Parser.refuses_of_ensure hAlgorithm _

theorem parse_encode_of_ne (key : PublicKey) {curve : Curve} (hOther : curve ≠ key.curve)
    (rest : List UInt8) : ∃ left, (parse curve).parse (key.encode ++ rest) =
      (.error (.unexpectedAlgorithm curve.algorithm key.curve.algorithm), left) := by
  have hRefused := key.refuses_encode hOther (UInt8.ofNat key.curve.oid.length :: key.curve.oid ++
    key.pointMpi.encode ++ derivation key.curve ++ rest)
  refine ⟨_, Eq.trans ?_ hRefused⟩
  simp [encode]

/-- Keys are told apart by what is hashed for them. -/
theorem preimage_injective : Function.Injective preimage := by
  intro first second h
  -- The lengths already tell the curves apart, and on one curve both are read back from the same octets.
  have hLength := congrArg List.length h
  have hCurve : first.curve = second.curve := by
    simp only [preimage, List.length_append, List.length_cons, length_bigEndian, length_encode,
      encodedLength_eq] at hLength
    cases hFirst : first.curve <;> cases hSecond : second.curve <;>
      simp_all [Curve.oid, derivation]
  exact (preimage_inj hCurve (congrArg (· ++ []) h)).1

/-- A packet of the public part: its header octet, a length octet that is that of the body, and the body,
which is what is hashed for the fingerprint behind the prefix and the length. -/
def IsPacketOf (header : UInt8) (key : PublicKey) (packet : List UInt8) : Prop :=
  ∃ (length : UInt8) (body : List UInt8), packet = header :: length :: body ∧
    length.toNat = body.length ∧ IsPreimageOf key.preimage body

theorem isPacketOf_framed (key : PublicKey) {tag : Tag}
    (tag_eq : .ofHeaderOctet tag.headerOctet = tag) :
    key.IsPacketOf tag.headerOctet (Packet.framed ⟨tag, key.encode⟩) := by
  have hFits : Packet.Fits ⟨tag, key.encode⟩ := ⟨tag_eq, key.length_encode_le⟩
  exact ⟨_, key.encode, rfl, hFits.toNat_length, key.isPreimageOf_preimage⟩

/-- The public part identifies the key. Whatever follows it, it is read back on its own curve, where
what follows is left, and refused as malformed on the other. So keys that differ in their time, curve or
point differ in what is hashed for them, which is the body of the packet that the key or the subkey is
published in, behind a prefix and its length. -/
theorem encode_identifies :
    (∀ (key : PublicKey) (rest : List UInt8),
      (parse key.curve).parse (key.encode ++ rest) = (.ok key, rest)) ∧
    (∀ (key : PublicKey) (curve : Curve) (rest : List UInt8), curve ≠ key.curve →
      ∃ error left, (parse curve).parse (key.encode ++ rest) = (.error error, left) ∧
        error.kind = .format) ∧
    (∀ first second : PublicKey, first ≠ second → first.preimage ≠ second.preimage) ∧
    (∀ key : PublicKey, IsPreimageOf key.preimage key.encode) ∧
    (∀ key : SigningKey, ∃ packet, key.publicPacket.outcome = .ok packet ∧
      key.publicKey.IsPacketOf 0xC6 packet) ∧
    (∀ subkey : EncryptionSubkey, ∃ packet, subkey.publicPacket.outcome = .ok packet ∧
      subkey.publicKey.IsPacketOf 0xCE packet) := by
  refine ⟨reads_encode, ?_, fun _ _ => preimage_injective.ne, isPreimageOf_preimage, ?_, ?_⟩
  · intro key curve rest hOther
    obtain ⟨left, hParse⟩ := key.parse_encode_of_ne hOther rest
    exact ⟨_, left, hParse, rfl⟩
  · intro key
    exact ⟨_, key.outcome_publicPacket, key.publicKey.isPacketOf_framed rfl⟩
  · intro subkey
    exact ⟨_, subkey.outcome_publicPacket, subkey.publicKey.isPacketOf_framed rfl⟩

/-- The primary key and the subkey of the seed of zeros, in front of an octet. -/
theorem encode_identifies_zero :
    Curve.curve25519 ≠ SigningKey.zero.publicKey.curve ∧
    (∃ error left, (parse .curve25519).parse (SigningKey.zero.publicKey.encode ++ [0xFF]) =
      (.error error, left) ∧ error.kind = .format) ∧
    SigningKey.zero.publicKey ≠ EncryptionSubkey.zero.publicKey ∧
    SigningKey.zero.publicKey.preimage ≠ EncryptionSubkey.zero.publicKey.preimage := by
  obtain ⟨-, hRefused, hApart, -⟩ := encode_identifies
  have hCurve : Curve.curve25519 ≠ SigningKey.zero.publicKey.curve := by
    rw [SigningKey.zero.curve_eq]
    decide
  have hKeys : SigningKey.zero.publicKey ≠ EncryptionSubkey.zero.publicKey := fun h =>
    hCurve (EncryptionSubkey.zero.curve_eq.symm.trans (congrArg curve h.symm))
  exact ⟨hCurve, hRefused SigningKey.zero.publicKey .curve25519 [0xFF] hCurve, hKeys,
    hApart _ _ hKeys⟩

end PublicKey

end PhraseKey
