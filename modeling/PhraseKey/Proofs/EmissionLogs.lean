import PhraseKey.Proofs.KeyFiles

/-!
What is logged about packets that are written. A frame is logged about only if its length means
something else to other readers, a secret because it is one, and a signature when it is made.
-/

namespace PhraseKey

variable {α β : Type}

/-- What follows a success that nothing was logged about has the log. -/
theorem Logged.log_ofExcept_bind {outcome : Except Error α} {value : α} (h : outcome = .ok value)
    (next : α → Logged β) : (ofExcept outcome >>= next).log = (next value).log := by
  subst h
  rfl

/-- What is only done to a result is not logged about. -/
theorem Logged.log_bind_pure (first : Logged α) (f : α → β) :
    (first >>= fun value => pure (f value)).log = first.log := by
  cases h : first.outcome with
  | error error => exact log_bind_of_error h _
  | ok value => exact (log_bind_of_ok h _).trans (List.append_nil _)

namespace Reading

/-- The log of what follows a success, behind that of the success. -/
theorem log_bind_of_ok {first : Reading α} {source : Source} {value : α}
    (h : (first.run source).1.outcome = .ok value) (next : α → Reading β) :
    ((first >>= next).run source).1.log =
      (first.run source).1.log ++ ((next value).run (first.run source).2).1.log := by
  rw [run_bind_of_ok h]

theorem log_bind_of_error {first : Reading α} {source : Source} {error : Error}
    (h : (first.run source).1.outcome = .error error) (next : α → Reading β) :
    ((first >>= next).run source).1.log = (first.run source).1.log := by
  rw [run_bind_of_error h]

end Reading

/-- The warning about a length that other readers take for the start of a longer one. -/
def PacketHeader.lengthWarning (tag : Tag) (length : Nat) : LogEntry :=
  ⟨.warn, tag.name ++ " packet body of " ++ toString length ++
    " bytes will not parse in other OpenPGP implementations"⟩

namespace Packet

/-- A frame with a short length is not worth a word. -/
theorem log_encode_of_short {tag : Tag} {body : List UInt8}
    (short : body.length < PacketHeader.firstAmbiguousLength) : (encode tag body).log = [] := by
  have hFits : ¬ PacketHeader.maxBodyLength < body.length :=
    Nat.not_lt.mpr (Nat.le_trans (Nat.le_of_lt short) (by decide))
  rw [encode, PacketHeader.ofLength, if_neg hFits, if_neg (Nat.not_le.mpr short)]
  rfl

/-- A longer one is worth a warning, as long as there is a frame. -/
theorem log_encode_of_ambiguous {tag : Tag} {body : List UInt8}
    (ambiguous : PacketHeader.firstAmbiguousLength ≤ body.length)
    (fits : body.length ≤ PacketHeader.maxBodyLength) :
    (encode tag body).log = [PacketHeader.lengthWarning tag body.length] := by
  rw [encode, PacketHeader.ofLength, if_neg (Nat.not_lt.mpr fits), if_pos ambiguous]
  rfl

theorem log_encode_of_oversized {tag : Tag} {body : List UInt8}
    (long : PacketHeader.maxBodyLength < body.length) : (encode tag body).log = [] := by
  rw [encode, Logged.log_bind_of_error (PacketHeader.outcome_ofLength_of_lt long),
    PacketHeader.ofLength, if_pos long]
  rfl

end Packet

/-- The warning about a secret that is written out. -/
def SecretKey.emission : LogEntry :=
  ⟨.warn, "emitting an unprotected secret key"⟩

/-- Whatever a secret of at most 32 octets is, its packet is logged about in the same way. -/
theorem SecretKey.log_packet {tag : Tag} {key : SecretKey}
    (small : key.secret.octets.length ≤ 32) :
    (do let body ← key.encode; Packet.encode tag body : Logged (List UInt8)).log = [emission] := by
  rw [Logged.log_bind_of_ok (show key.encode.outcome = .ok key.body from rfl),
    Packet.log_encode_of_short (length_body_lt small)]
  rfl

/-- The line about a binding that is being signed. -/
def SignatureType.signing (type : SignatureType) : LogEntry :=
  ⟨.debug, "signing binding " ++ type.name⟩

/-- The line about the signature of a document. -/
def Signature.creation (signature : Signature) : LogEntry :=
  ⟨.debug, "created detached signature " ++ signature.text⟩

namespace SigningKey

theorem log_bindingSignature (key : SigningKey) {target : BindingTarget} (created : Timestamp)
    {data : List UInt8} (hType : target.type.IsBinding) (hData : target.preimage = .ok data) :
    (key.bindingSignature target created).log = [target.type.signing] := by
  have hAccepted : ¬ ¬ target.type.IsBinding := fun h => h hType
  rw [bindingSignature, if_neg hAccepted]
  change (Statement.bind _ _ _ target).log = _
  rw [Statement.bind, Logged.log_bind_of_ok rfl]
  refine congrArg ([target.type.signing] ++ ·) ?_
  refine (Logged.log_ofExcept_bind HashAlgorithm.hasher_sha256 _).trans ?_
  exact Logged.log_ofExcept_bind hData _

/-- A binding is logged about once, unless it is long. -/
theorem log_bind (key : SigningKey) {target : BindingTarget} (created : Timestamp)
    {data : List UInt8} (hType : target.type.IsBinding) (hData : target.preimage = .ok data)
    (short : (key.bound target created data).encodedLength < PacketHeader.firstAmbiguousLength) :
    (key.bind target created).log = [target.type.signing] := by
  rw [← Signature.length_encode] at short
  rw [bind, Logged.log_bind_of_ok (key.outcome_bindingSignature created hType hData),
    key.log_bindingSignature created hType hData, Signature.toPacket,
    Packet.log_encode_of_short short]
  rfl

/-- Reading and signing a document is not logged about, whether or not it can be read. -/
theorem log_sign_documentStatement (key : SigningKey) (source : Source) :
    ((key.documentStatement.sign key.seed).run source).1.log = [] := by
  have hHasher : ((Reading.ofLogged (.ofExcept HashAlgorithm.sha256.hasher)).run source).1.outcome =
      .ok .sha256 := HashAlgorithm.hasher_sha256
  refine (Reading.log_bind_of_ok hHasher _).trans ?_
  cases hEnding : source.ending with
  | endOfData => exact Reading.log_bind_of_ok (Reading.outcome_toEnd hEnding) _
  | failed failure => exact Reading.log_bind_of_error (Reading.outcome_toEnd_of_failed hEnding) _

/-- All that is logged about a document is its signature. -/
theorem log_sign (key : SigningKey) {source : Source} (hEnding : source.ending = .endOfData) :
    (key.sign.run source).1.log = [(key.signed source.octets).creation] := by
  have hShort : (key.signed source.octets).encode.length < PacketHeader.firstAmbiguousLength := by
    rw [Signature.length_encode]
    exact Nat.lt_of_le_of_lt (key.encodedLength_signed_le source.octets) (by decide)
  have hSigned : ((key.documentStatement.sign key.seed).run source).1.outcome =
      .ok (key.signed source.octets) := Statement.outcome_sign rfl key.seed hEnding
  rw [sign, Reading.log_bind_of_ok hSigned, key.log_sign_documentStatement]
  refine (Reading.log_bind_of_ok rfl _).trans ?_
  exact congrArg ([(key.signed source.octets).creation] ++ ·) (Packet.log_encode_of_short hShort)

theorem log_publicPacket (key : SigningKey) : key.publicPacket.log = [] :=
  Packet.log_encode_of_short key.publicKey.length_encode_lt

theorem log_secretPacket (key : SigningKey) : key.secretPacket.log = [SecretKey.emission] :=
  SecretKey.log_packet key.length_secret_le

end SigningKey

namespace EncryptionSubkey

theorem log_publicPacket (key : EncryptionSubkey) : key.publicPacket.log = [] :=
  Packet.log_encode_of_short key.publicKey.length_encode_lt

theorem log_secretPacket (key : EncryptionSubkey) : key.secretPacket.log = [SecretKey.emission] :=
  SecretKey.log_packet key.length_secret_le

end EncryptionSubkey

namespace Certificate

/-- What is logged about the bindings, with the given entries about the packet of a subkey. A user id
that is too long ends it. -/
def bindingEntries (certificate : Certificate) (subkeyEntries : List LogEntry) : List LogEntry :=
  certificate.userId.packet.log ++
    if certificate.userId.id.length ≤ 255 then
      SignatureType.certPositive.signing ::
        if certificate.subkey.isSome then subkeyEntries ++ [SignatureType.subkeyBinding.signing]
        else []
    else []

theorem log_certification (certificate : Certificate)
    (hLength : certificate.userId.id.length ≤ 255) :
    (certificate.key.bind certificate.userId.bindingTarget certificate.created).log =
      [SignatureType.certPositive.signing] :=
  certificate.key.log_bind certificate.created
    SignatureType.isBinding_certPositive (UserId.preimage_of_length_le hLength)
    (certificate.key.encodedLength_bound_userId_lt _ _ _)

theorem log_subkeyBinding (certificate : Certificate) (subkey : EncryptionSubkey) :
    (certificate.key.bind subkey.bindingTarget certificate.created).log =
      [SignatureType.subkeyBinding.signing] :=
  certificate.key.log_bind certificate.created
    SignatureType.isBinding_subkeyBinding rfl
    (certificate.key.encodedLength_bound_subkey_lt _ _ _)

/-- If the packet of a subkey is logged about in the same way for all subkeys, so are the bindings. -/
theorem log_bindings (certificate : Certificate)
    {subkeyLogged : EncryptionSubkey → Logged (List UInt8)} {subkeyPacket : EncryptionSubkey → Packet}
    {subkeyEntries : List LogEntry}
    (hOutcome : ∀ subkey, (subkeyLogged subkey).outcome = .ok (subkeyPacket subkey).framed)
    (hLog : ∀ subkey, (subkeyLogged subkey).log = subkeyEntries) :
    (certificate.bindings subkeyLogged).log = certificate.bindingEntries subkeyEntries := by
  by_cases hLength : certificate.userId.id.length ≤ 255
  · rw [bindingEntries, if_pos hLength, bindings,
      Logged.log_bind_of_ok (UserId.outcome_packet hLength),
      Logged.log_bind_of_ok (certificate.outcome_certification hLength),
      certificate.log_certification hLength]
    refine congrArg (certificate.userId.packet.log ++ SignatureType.certPositive.signing :: ·) ?_
    cases certificate.subkey with
    | none => rfl
    | some subkey =>
        dsimp only
        rw [Logged.log_bind_of_ok (hOutcome subkey), hLog,
          Logged.log_bind_of_ok (certificate.outcome_subkeyBinding subkey),
          certificate.log_subkeyBinding]
        rfl
  · rw [bindingEntries, if_neg hLength, bindings,
      Logged.log_bind_of_error (UserId.outcome_packet_of_lt (Nat.not_le.mp hLength)), List.append_nil]

theorem log_publicBytes (certificate : Certificate) :
    certificate.publicBytes.log = certificate.bindingEntries [] := by
  rw [publicBytes, Logged.log_bind_of_ok certificate.key.outcome_publicPacket,
    certificate.key.log_publicPacket, Logged.log_bind_pure]
  exact certificate.log_bindings EncryptionSubkey.outcome_publicPacket
    EncryptionSubkey.log_publicPacket

theorem log_secretBytes (certificate : Certificate) :
    certificate.secretBytes.log =
      SecretKey.emission :: certificate.bindingEntries [SecretKey.emission] := by
  rw [secretBytes, Logged.log_bind_of_ok certificate.key.outcome_secretPacket,
    certificate.key.log_secretPacket, Logged.log_bind_pure]
  exact congrArg (SecretKey.emission :: ·) (certificate.log_bindings
    EncryptionSubkey.outcome_secretPacket EncryptionSubkey.log_secretPacket)

theorem log_keyFile (certificate : Certificate) :
    certificate.keyFile.log = SecretKey.emission :: certificate.userId.packet.log := by
  rw [keyFile, Logged.log_bind_of_ok certificate.key.outcome_secretPacket,
    certificate.key.log_secretPacket, Logged.log_bind_pure]
  rfl

end Certificate

end PhraseKey
