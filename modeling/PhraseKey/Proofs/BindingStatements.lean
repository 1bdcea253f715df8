import PhraseKey.Proofs.SignatureFraming

/-!
What a binding states. A target chooses the type of its binding and adds statements of its own, also of
a creation time or an issuer. But those of the signer stand in front of them or where a target adds
nothing, and a reader takes the first of a kind.
-/

namespace PhraseKey

namespace SignatureType

theorem ofId_injective : Function.Injective ofId :=
  Function.LeftInverse.injective id_ofId

theorem isBinding_iff {type : SignatureType} :
    type.IsBinding ↔ type ∈ [certGeneric, certPositive, subkeyBinding] := by
  simp [IsBinding]

/-- The types that bind are those that are found for three octets. -/
theorem ofId_mem_iff {octet : UInt8} :
    ofId octet ∈ [certGeneric, certPositive, subkeyBinding] ↔ octet ∈ [0x10, 0x13, 0x18] := by
  change ofId octet ∈ [ofId 0x10, ofId 0x13, ofId 0x18] ↔ _
  simp only [List.mem_cons, ofId_injective.eq_iff, List.not_mem_nil]

end SignatureType

/-- The time and the issuer are those of the signer, and everything else is what the target asks for. -/
structure Signature.Binds (signature : Signature) (key : SigningKey) (target : BindingTarget)
    (created : Timestamp) : Prop where
  type_eq : signature.statement.type = target.type
  hashed_eq : signature.statement.hashed = .creationTime created :: target.subpackets
  unhashed_eq : signature.statement.unhashed = [.issuer key.keyId]
  created_eq : signature.created? = some created
  issuer_eq : signature.issuer? = some key.keyId

namespace SigningKey

variable {key : SigningKey} {target : BindingTarget} {created : Timestamp}

theorem binds_bound (data : List UInt8) : (key.bound target created data).Binds key target created :=
  ⟨rfl, rfl, rfl, rfl, rfl⟩

/-- Other types are refused before anything is asked of the target. -/
theorem outcome_bindingSignature_of_not_isBinding (key : SigningKey) (created : Timestamp)
    (hType : ¬ target.type.IsBinding) :
    (key.bindingSignature target created).outcome = .error (.notBinding target.type) := by
  rw [bindingSignature, if_pos hType]
  rfl

/-- A target without octets to be hashed has no binding. -/
theorem outcome_bindingSignature_of_error (key : SigningKey) (created : Timestamp) {error : Error}
    (hType : target.type.IsBinding) (hData : target.preimage = .error error) :
    (key.bindingSignature target created).outcome = .error error := by
  have hAccepted : ¬ ¬ target.type.IsBinding := fun h => h hType
  rw [bindingSignature, if_neg hAccepted, Statement.bind]
  refine (Logged.outcome_bind_of_ok rfl _).trans ?_
  refine (Logged.outcome_ofExcept_bind HashAlgorithm.hasher_sha256 _).trans ?_
  exact Logged.outcome_bind_of_error hData _

theorem outcome_bind_of_error {error : Error}
    (h : (key.bindingSignature target created).outcome = .error error) :
    (key.bind target created).outcome = .error error :=
  Logged.outcome_bind_of_error h _

theorem outcome_bind_of_ok {signature : Signature}
    (h : (key.bindingSignature target created).outcome = .ok signature) :
    (key.bind target created).outcome = signature.toPacket.outcome :=
  Logged.outcome_bind_of_ok h _

/-- The target of a binding cannot override what the signer states. The types that bind are those of
three octets. A binding of any other type is refused, also of one that was asked for by the number of one
of the three, and a target whose octets cannot be had has none. Every other target gets a signature with
the given time in front of its own statements and nothing but the issuer where they are not signed, so
these are the time and the issuer that the signature is read with. It is framed, and says the same in its
packet, unless the 94 octets and the statements of the target, less the zeros that the values of the
signature lose, are more than 255. -/
theorem bind_states (key : SigningKey) (target : BindingTarget) (created : Timestamp) :
    (∀ octet, target.type = .ofId octet →
      (target.type ∈ [.certGeneric, .certPositive, .subkeyBinding] ↔ octet ∈ [0x10, 0x13, 0x18])) ∧
    (target.type ∉ [.certGeneric, .certPositive, .subkeyBinding] → ∃ error, error.kind = .format ∧
      (key.bindingSignature target created).outcome = .error error ∧
      (key.bind target created).outcome = .error error) ∧
    (target.type ∈ [.certGeneric, .certPositive, .subkeyBinding] →
      (∀ error, target.preimage = .error error →
        (key.bindingSignature target created).outcome = .error error ∧
        (key.bind target created).outcome = .error error) ∧
      ∀ data, target.preimage = .ok data → ∃ (signature : Signature) (r s : Octets 32),
        (key.bindingSignature target created).outcome = .ok signature ∧
        signature.Binds key target created ∧
        r.append s = Ed25519.sign key.seed (Digest.Sha256.digest
          (signature.statement.preimage (key.publicKey.preimage ++ data))).toList ∧
        signature.value = ⟨.ofOctets r.toList, .ofOctets s.toList⟩ ∧
        signature.encode.length = 94 + (Subpacket.encodeAll target.subpackets).length -
          (Mpi.lostZeros r.toList + Mpi.lostZeros s.toList) ∧
        (∀ packet, (key.bind target created).outcome = .ok packet ↔
          signature.encode.length ≤ 255 ∧
            packet = 0xC2 :: UInt8.ofNat signature.encode.length :: signature.encode) ∧
        (signature.encode.length ≤ 255 → Signature.decode signature.encode = .ok signature) ∧
        ∀ error, (key.bind target created).outcome = .error error ↔
          255 < signature.encode.length ∧ error = .oversizedBody signature.encode.length 255 ∧
            error.kind = .encoding) := by
  refine ⟨fun octet hOctet => hOctet ▸ SignatureType.ofId_mem_iff, ?_⟩
  rw [← SignatureType.isBinding_iff]
  refine ⟨fun hType => ?_, fun hType => ⟨fun error hData => ?_, fun data hData => ?_⟩⟩
  · have hRefused := key.outcome_bindingSignature_of_not_isBinding created hType
    exact ⟨_, rfl, hRefused, outcome_bind_of_error hRefused⟩
  · have hFailed := key.outcome_bindingSignature_of_error created hType hData
    exact ⟨hFailed, outcome_bind_of_error hFailed⟩
  · have hMade := key.outcome_bindingSignature created hType hData
    have hLength := key.lostZeros_add_encodedLength_bound target created data
    rw [SignatureValue.lostZeros] at hLength
    refine ⟨key.bound target created data, (key.boundOctets target created data).front,
      (key.boundOctets target created data).back, hMade, binds_bound data,
      Octets.front_append_back _, rfl, ?_, ?_, ?_, ?_⟩
    · rw [Signature.length_encode, Subpacket.length_encodeAll, ← hLength, Nat.add_sub_cancel_left]
    · intro packet
      rw [outcome_bind_of_ok hMade, Signature.outcome_toPacket_eq_ok_iff, Packet.framed_signature,
        Signature.length_encode]
    · intro hFits
      rw [Signature.length_encode] at hFits
      rw [Signature.decode_encode (Signature.Fits.of_encodedLength_le hFits),
        key.asRead_bound created data hType]
    · intro error
      rw [outcome_bind_of_ok hMade, Signature.outcome_toPacket_eq_error_iff, Signature.length_encode]

/-- A target that states another time, and so many other issuers. -/
def conflicting (issuers : Nat) : BindingTarget :=
  ⟨.certPositive, .creationTime ⟨7⟩ ::
    List.replicate issuers (.issuer EncryptionSubkey.zeroFingerprint.keyId), .ok [0x61]⟩

/-- A document is no target, nor is one whose type is asked for by its number, another time and issuer
are overruled, and too many of them have no packet. -/
theorem bind_states_conflicting :
    (∀ type ∈ [SignatureType.binary, .other 0x13], ∃ error, error.kind = .format ∧
      (zero.bind ⟨type, [], .ok []⟩ .epoch).outcome = .error error) ∧
    (∃ signature packet, (zero.bindingSignature (conflicting 1) .epoch).outcome = .ok signature ∧
      signature.created? = some .epoch ∧ signature.issuer? = some zero.keyId ∧
      (zero.bind (conflicting 1) .epoch).outcome = .ok packet) ∧
    ∃ error, (zero.bind (conflicting 23) .epoch).outcome = .error error ∧ error.kind = .encoding := by
  have hPositive : SignatureType.certPositive ∈
      [SignatureType.certGeneric, .certPositive, .subkeyBinding] := by decide
  refine ⟨?_, ?_, ?_⟩
  · intro type hType
    obtain ⟨error, hKind, -, hBind⟩ := (bind_states zero ⟨type, [], .ok []⟩ .epoch).2.1 (by
      revert type
      decide)
    exact ⟨error, hKind, hBind⟩
  · obtain ⟨signature, r, s, hMade, hBinds, -, -, hLength, hPacket, -, -⟩ :=
      ((bind_states zero (conflicting 1) .epoch).2.2 hPositive).2 [0x61] rfl
    have hStatements : (Subpacket.encodeAll (conflicting 1).subpackets).length = 16 := by
      rw [Subpacket.length_encodeAll]
      rfl
    exact ⟨signature, _, hMade, hBinds.created_eq, hBinds.issuer_eq,
      (hPacket _).mpr ⟨by omega, rfl⟩⟩
  · obtain ⟨signature, r, s, -, -, -, -, hLength, -, -, hError⟩ :=
      ((bind_states zero (conflicting 23) .epoch).2.2 hPositive).2 [0x61] rfl
    have hStatements : (Subpacket.encodeAll (conflicting 23).subpackets).length = 236 := by
      rw [Subpacket.length_encodeAll]
      rfl
    have hR := Mpi.lostZeros_add_length r.toList
    have hS := Mpi.lostZeros_add_length s.toList
    rw [Octets.length_toList] at hR hS
    exact ⟨_, (hError _).mpr ⟨by omega, rfl, rfl⟩, rfl⟩

end SigningKey

end PhraseKey
