import PhraseKey.Proofs.IntegerDamage
import PhraseKey.Proofs.KeyLoading

/-!
Damage to a stored secret. If one octet of the secret or of its checksum is replaced, then reading the
packet fails, but for two exceptions. A bit count that calls for as many octets goes unnoticed, since
the checksum is that of the secret as it would be written again. And the first octet of a seed can be
replaced so that the bit count makes up for the difference, in which case only the public key tells.
The first octet of a subkey cannot, because the secret is clamped.
-/

namespace PhraseKey

namespace PublicKey

/-- The body of a secret key, with these octets as its secret and checksum. -/
def secretBody (key : PublicKey) (secretPart : List UInt8) : List UInt8 :=
  key.encode ++ SecretKey.unprotected :: secretPart

end PublicKey

namespace SecretKey

theorem body_eq_secretBody (key : SecretKey) :
    key.body = key.publicKey.secretBody key.secret.withChecksum := by
  simp [body, PublicKey.secretBody, Mpi.withChecksum]

theorem reads_withChecksum (stored : StoredMpi) (small : stored.bits ≤ Mpi.maxBits) :
    parseSecret.Reads stored.withChecksum stored.value := by
  have hSum := Parser.reads_array "secret key checksum"
    ⟨bigEndian 2 (checksum stored.value.encode).toNat, length_bigEndian ..⟩
  refine (stored.reads_encode small).bind (hSum.last ?_)
  rw [Checksum.verify_checksum]
  exact Parser.reads_pure stored.value

/-- The public part is read, and what stands behind it decides. -/
theorem parseFields_secretBody (key : PublicKey) (secretPart : List UInt8) :
    (parseFields key.curve).parse (key.secretBody secretPart) =
      (parseSecret >>= fun secret => pure ⟨key, secret⟩).parse secretPart := by
  rw [PublicKey.secretBody, parseFields, Parser.parse_bind_of_ok (key.reads_encode _),
    ← List.singleton_append, Parser.parse_bind_of_ok (Parser.reads_u8 _ unprotected _),
    Parser.ensure_eq_pure rfl, pure_bind]

theorem decode_secretBody (key : PublicKey) (secretPart : List UInt8) :
    decode key.curve (key.secretBody secretPart) =
      ((do
        let key ← parseSecret >>= fun secret => pure ⟨key, secret⟩
        Parser.finish .trailingData
        return key : Parser SecretKey).parse secretPart).1 := by
  rw [decode, parse_eq, Parser.parse_bind_congr (parseFields_secretBody key secretPart)]

/-- What is accepted behind the public part is an integer with its checksum. -/
theorem exists_of_decode_secretBody {key : PublicKey} {secretPart : List UInt8} {found : SecretKey}
    (h : decode key.curve (key.secretBody secretPart) = .ok found) :
    ∃ stored : StoredMpi, secretPart = stored.withChecksum ∧ found = ⟨key, stored.value⟩ := by
  have hAccepts : (parseSecret >>= fun secret => pure (SecretKey.mk key secret)).Accepts
      fun front found => ∃ stored : StoredMpi, front = stored.withChecksum ∧
        found = ⟨key, stored.value⟩ := by
    refine accepts_parseSecret.bind ?_
    rintro _ _ ⟨stored, rfl, rfl⟩
    exact Parser.accepts_pure ⟨stored, List.append_nil _, rfl⟩
  rw [decode_secretBody] at h
  exact hAccepts.of_parse_finish h

/-- An integer is accepted behind any bit count that calls for as many octets. -/
theorem decode_of_countedIn {key : SecretKey} {secretPart : List UInt8}
    (small : key.secret.octets.length ≤ 32) (h : key.secret.CountedIn secretPart) :
    decode key.publicKey.curve (key.publicKey.secretBody secretPart) = .ok key := by
  obtain ⟨stored, hOctets, rfl⟩ := h
  have hBits : stored.bits ≤ Mpi.maxBits := by
    have hLength := stored.length_octets
    rw [hOctets] at hLength
    rw [UInt16.le_iff_toNat_le]
    change _ ≤ 512
    omega
  have hRead := (reads_withChecksum stored hBits).map (SecretKey.mk key.publicKey)
  rw [decode_secretBody, hRead.parse_finish, StoredMpi.value_of_octets_eq hOctets]

/-- A packet stays as long as it was. -/
theorem fits_secretBody {tag : Tag} (key : SecretKey) {secretPart : List UInt8}
    (fits : Packet.Fits ⟨tag, key.body⟩) (h : secretPart.length = key.secret.withChecksum.length) :
    Packet.Fits ⟨tag, key.publicKey.secretBody secretPart⟩ := by
  refine ⟨fits.tag_eq, ?_⟩
  have hLength := fits.length_le
  simp only [body_eq_secretBody, PublicKey.secretBody, List.length_append,
    List.length_cons] at hLength ⊢
  omega

end SecretKey

/-- One octet of a secret or its checksum that is replaced by another. -/
structure Damage (secretPart : List UInt8) where
  index : Nat
  octet : UInt8
  index_lt : index < secretPart.length
  octet_ne : secretPart[index]? ≠ some octet

namespace Damage

variable {secretPart : List UInt8}

/-- What stands in the packet then. -/
def apply (damage : Damage secretPart) : List UInt8 :=
  secretPart.set damage.index damage.octet

theorem length_apply (damage : Damage secretPart) : damage.apply.length = secretPart.length :=
  List.length_set

/-- What comes of reading damaged packets: an error of the format, or the same key if only the bit count
differs, in its lower octet, and calls for as many octets. -/
inductive Result {α : Type} {secret : Mpi} (damage : Damage secret.withChecksum) (key : α) :
    Except Error α → Prop where
  | noticed (error : Error) (kind_eq : error.kind = .format)
      (not_countedIn : ¬ secret.CountedIn damage.apply) : Result damage key (.error error)
  | recounted (index_eq : damage.index = 1) (countedIn : secret.CountedIn damage.apply) :
      Result damage key (.ok key)

/-- Any other bit count of as many octets goes unnoticed. -/
theorem Result.eq_of_countedIn {α : Type} {secret : Mpi} {damage : Damage secret.withChecksum}
    {key : α} {outcome : Except Error α} (h : damage.Result key outcome)
    (countedIn : secret.CountedIn damage.apply) : outcome = .ok key := by
  cases h with
  | noticed _ _ not_countedIn => exact absurd countedIn not_countedIn
  | recounted => rfl

/-- Damage to any other octet than the lower one of the bit count is noticed. -/
theorem Result.exists_error {α : Type} {secret : Mpi} {damage : Damage secret.withChecksum} {key : α}
    {outcome : Except Error α} (h : damage.Result key outcome) (index_ne : damage.index ≠ 1) :
    ∃ error, outcome = .error error ∧ error.kind = .format := by
  cases h with
  | noticed error hKind => exact ⟨error, rfl, hKind⟩
  | recounted hIndex => exact absurd hIndex index_ne

/-- An outcome that follows another in both cases. -/
theorem Result.of_imp {α β : Type} {secret : Mpi} {damage : Damage secret.withChecksum} {key : α}
    {key' : β} {outcome : Except Error α} {outcome' : Except Error β} (h : damage.Result key outcome)
    (hError : ∀ error, outcome = .error error → outcome' = .error error)
    (hOk : outcome = .ok key → outcome' = .ok key') : damage.Result key' outcome' := by
  cases h with
  | noticed error hKind hNot =>
      rw [hError error rfl]
      exact .noticed error hKind hNot
  | recounted hIndex hCounted =>
      rw [hOk rfl]
      exact .recounted hIndex hCounted

end Damage

namespace Mpi.SameChecksum

variable {mpi : Mpi} {octet : UInt8} {stored : StoredMpi}

theorem length_eq (h : mpi.SameChecksum octet stored) : stored.octets.length = mpi.octets.length := by
  obtain ⟨first, rest, hOctets, -, hStored⟩ := h.octets_eq
  rw [hOctets, hStored, List.length_cons, List.length_cons]

theorem octets_ne (h : mpi.SameChecksum octet stored) : stored.octets ≠ mpi.octets := by
  obtain ⟨first, rest, hOctets, hNe, hStored⟩ := h.octets_eq
  rw [hOctets, hStored]
  exact fun hEq => hNe (List.cons.inj hEq).1

/-- The integer is another one. -/
theorem value_ne (h : mpi.SameChecksum octet stored) : stored.value ≠ mpi := by
  rintro rfl
  have hPrefix := Mpi.replicate_append_ofOctets stored.octets
  rw [h.length_eq, StoredMpi.value, Nat.sub_self] at hPrefix
  exact h.octets_ne hPrefix.symm

theorem not_countedIn (h : mpi.SameChecksum octet stored) : ¬ mpi.CountedIn stored.withChecksum := by
  rintro ⟨other, hOctets, hEq⟩
  rw [(StoredMpi.encode_append_inj hEq).1] at h
  exact h.octets_ne hOctets

end Mpi.SameChecksum

/-- A damaged body is refused, or decoded as before, or with another secret of the same checksum. -/
theorem SecretKey.decode_damaged {key : SecretKey} (small : key.secret.octets.length ≤ 32)
    (damage : Damage key.secret.withChecksum) :
    let outcome := decode key.publicKey.curve (key.publicKey.secretBody damage.apply)
    damage.Result key outcome ∨
    (damage.index = 2 ∧ ¬ key.secret.CountedIn damage.apply ∧ ∃ stored,
      key.secret.SameChecksum damage.octet stored ∧ outcome = .ok ⟨key.publicKey, stored.value⟩) := by
  intro outcome
  cases hDecode : outcome with
  | error error =>
      refine .inl (.noticed error (kind_of_decode_eq_error hDecode) fun hCounted => ?_)
      exact nomatch hDecode.symm.trans (decode_of_countedIn small hCounted)
  | ok found =>
      obtain ⟨stored, hStored, rfl⟩ := exists_of_decode_secretBody hDecode
      obtain ⟨hIndex, hOctets⟩ | ⟨hIndex, hSame⟩ :=
        Mpi.accepted_damage damage.index_lt damage.octet_ne hStored
      · rw [StoredMpi.value_of_octets_eq hOctets]
        exact .inl (.recounted hIndex ⟨stored, hOctets, hStored⟩)
      · have hNot : ¬ key.secret.CountedIn damage.apply := by
          rw [hStored]
          exact hSame.not_countedIn
        exact .inr ⟨hIndex, hNot, stored, hSame, rfl⟩

namespace SigningKey

/-- The stored seed and its checksum. -/
def secretPart (key : SigningKey) : List UInt8 :=
  key.secretKey.secret.withChecksum

/-- The packet of a key with these octets as its seed and checksum. -/
def storedWith (key : SigningKey) (secretPart : List UInt8) : Packet :=
  ⟨.secretKey, key.publicKey.secretBody secretPart⟩

theorem storedWith_secretPart (key : SigningKey) : key.storedWith key.secretPart = key.stored := by
  rw [stored, SecretKey.body_eq_secretBody]
  rfl

/-- A body that decodes to another seed is refused, if not for the fingerprint of that seed or because
it has the same public key. -/
theorem read_of_decode_other {key : SigningKey} {body : List UInt8} {secret : Mpi} {source : Source}
    {rest : List UInt8} (hFits : Packet.Fits ⟨.secretKey, body⟩)
    (hDecode : SecretKey.decode .ed25519 body = .ok ⟨key.publicKey, secret⟩)
    (small : secret.octets.length ≤ 32) (hOther : secret ≠ key.secretKey.secret)
    (hOctets : source.octets = (Packet.mk .secretKey body).framed ++ rest) :
    (read.run source).1.outcome = .error .differingPublicKey ∨
    ∃ seed, secret.padded 32 = .ok seed ∧ seed ≠ key.seed ∧
      ((read.run source).1.outcome = .error .sha1Collision ∨
        ∃ other : SigningKey, other.seed = seed ∧ other.publicKey = key.publicKey ∧
          (read.run source).1.outcome = .ok other) := by
  have hRead := Packet.consumes_readTagged hFits
  have hDecoded := Reading.consumes_ofExcept hDecode
  obtain ⟨seed, hSeed⟩ : ∃ seed, secret.padded 32 = .ok seed := by
    rw [Mpi.padded, dif_pos small]
    exact ⟨_, rfl⟩
  have hPadded := Reading.consumes_ofExcept hSeed
  have hNe : seed ≠ key.seed := by
    rintro rfl
    exact hOther (Mpi.ofOctets_of_padded hSeed).symm
  cases hKey : ofSeed seed key.created with
  | error error =>
      obtain rfl := eq_of_ofSeed_eq_error hKey
      refine .inr ⟨seed, hSeed, hNe, .inl ?_⟩
      refine hRead.last_fails (hDecoded.last_fails (hPadded.last_fails ?_)) source rest hOctets
      exact (Reading.fails_ofLogged ((outcome_fromSeed seed key.created).trans hKey)).bind _
  | ok other =>
      have hMade := Reading.consumes_ofLogged ((outcome_fromSeed seed key.created).trans hKey)
      by_cases hPublic : other.publicKey = key.publicKey
      · have hConsumes : read.Consumes (Packet.mk .secretKey body).framed other := by
          refine hRead.last (hDecoded.after (hPadded.after (hMade.after ?_)))
          exact (Reading.consumes_ensure hPublic _).after (Reading.consumes_pure other)
        obtain ⟨hOwnSeed, -⟩ := eq_of_ofSeed_eq_ok hKey
        exact .inr ⟨seed, hSeed, hNe, .inr ⟨other, hOwnSeed, hPublic,
          (hConsumes source rest hOctets).1⟩⟩
      · left
        refine hRead.last_fails (hDecoded.last_fails (hPadded.last_fails (hMade.last_fails ?_)))
          source rest hOctets
        exact (Reading.fails_ensure hPublic _).bind _

theorem fits_storedWith (key : SigningKey) (damage : Damage key.secretPart) :
    (key.storedWith damage.apply).Fits :=
  key.secretKey.fits_secretBody key.fits_stored damage.length_apply

/-- A seed in place of that of the key, with another first octet and the same checksum. -/
structure OtherSeed (key : SigningKey) (damage : Damage key.secretPart) (seed : Octets 32) : Prop where
  index_eq : damage.index = 2
  seed_ne : seed ≠ key.seed
  sameChecksum : ∃ stored, key.secretKey.secret.SameChecksum damage.octet stored ∧
    stored.value.padded 32 = .ok seed

/-- Reading a damaged key. If there is another seed with the same checksum, then it is its public key
that is compared. -/
theorem read_damaged (key : SigningKey) (damage : Damage key.secretPart) {source : Source}
    {rest : List UInt8} (hOctets : source.octets = (key.storedWith damage.apply).framed ++ rest) :
    damage.Result key (read.run source).1.outcome ∨
    ∃ seed, key.OtherSeed damage seed ∧
      ((read.run source).1.outcome = .error .sha1Collision ∨
        ∃ other : SigningKey, other.seed = seed ∧ other.publicKey = key.publicKey ∧
          (read.run source).1.outcome = .ok other) := by
  have hFits := key.fits_storedWith damage
  have hDecode := SecretKey.decode_damaged key.length_secret_le damage
  rw [show key.secretKey.publicKey.curve = .ed25519 from key.curve_eq] at hDecode
  obtain hResult | ⟨hIndex, hNot, stored, hSame, hFound⟩ := hDecode
  · refine .inl (hResult.of_imp (fun error hError => ?_) fun hKey => ?_)
    · exact fails_read_of_decode hFits hError source rest hOctets
    · exact (consumes_read_of_decode hFits hKey source rest hOctets).1
  · have hSmall : stored.value.octets.length ≤ 32 := by
      have hLength := Mpi.length_ofOctets_le stored.octets
      rw [hSame.length_eq] at hLength
      exact Nat.le_trans hLength key.length_secret_le
    obtain hDiffers | ⟨seed, hSeed, hNe, hOutcome⟩ :=
      read_of_decode_other hFits hFound hSmall hSame.value_ne hOctets
    · rw [hDiffers]
      exact .inl (.noticed .differingPublicKey rfl hNot)
    · exact .inr ⟨seed, ⟨hIndex, hNe, stored, hSame, hSeed⟩, hOutcome⟩

end SigningKey

/-- A clamped scalar, most significant octet first, starts with an octet from 64 to 127. -/
theorem Curve25519.exists_clamp_reverse (scalar : Octets 32) :
    ∃ (first : UInt8) (rest : List UInt8), (clamp scalar).reverse.toList = first :: rest ∧
      rest.length = 31 ∧ 64 ≤ first.toNat ∧ first.toNat < 128 := by
  have hBits : ∀ b : BitVec 8,
      64 ≤ (b &&& 0x7F ||| 0x40).toNat ∧ (b &&& 0x7F ||| 0x40).toNat < 128 := by decide
  have hLength : (scalar.toList.modify 0 clampFirst).length = 32 := by simp
  have hLast : 31 < (scalar.toList.modify 0 clampFirst).length := by omega
  refine ⟨clampLast (scalar.toList.modify 0 clampFirst)[31],
    ((scalar.toList.modify 0 clampFirst).take 31).reverse, ?_, ?_, hBits _⟩
  · change ((scalar.toList.modify 0 clampFirst).modify 31 clampLast).reverse = _
    rw [List.modify_eq_take_cons_drop hLast, List.drop_of_length_le (by omega), List.reverse_append]
    rfl
  · rw [List.length_reverse, List.length_take_of_le (by omega)]

namespace EncryptionSubkey

/-- The stored secret and its checksum. -/
def secretPart (key : EncryptionSubkey) : List UInt8 :=
  key.secretKey.secret.withChecksum

/-- The packet of a subkey with these octets as its secret and checksum. -/
def storedWith (key : EncryptionSubkey) (secretPart : List UInt8) : Packet :=
  ⟨.secretSubkey, key.publicKey.secretBody secretPart⟩

theorem storedWith_secretPart (key : EncryptionSubkey) :
    key.storedWith key.secretPart = key.stored := by
  rw [stored, SecretKey.body_eq_secretBody]
  rfl

theorem fits_storedWith (key : EncryptionSubkey) (damage : Damage key.secretPart) :
    (key.storedWith damage.apply).Fits :=
  key.secretKey.fits_secretBody key.fits_stored damage.length_apply

/-- No first octet of a subkey can be replaced unnoticed. -/
theorem not_sameChecksum (key : EncryptionSubkey) (octet : UInt8) (stored : StoredMpi) :
    ¬ key.secretKey.secret.SameChecksum octet stored := by
  intro hSame
  obtain ⟨first, rest, hClamped, hLength, hLow, hHigh⟩ :=
    Curve25519.exists_clamp_reverse key.secret
  have hSecret : key.secretKey.secret = .ofOctets (first :: rest) := by
    rw [secretKey, ← key.clamp_secret, hClamped]
  have hHead : (first :: rest).head? ≠ some 0 := by
    rw [List.head?_cons]
    rintro ⟨⟩
    cases hLow
  obtain ⟨found, tail, hOctets, hNe, hStored⟩ := hSame.octets_eq
  rw [hSecret, Mpi.octets_ofOctets hHead] at hOctets
  obtain ⟨rfl, rfl⟩ := List.cons.inj hOctets
  refine hNe (Mpi.eq_of_checksum_eq_of_clamped hLow hHigh hLength ?_)
  rw [← hSecret, ← hStored]
  exact hSame.checksum_eq

/-- Reading a damaged subkey. -/
theorem read_damaged (key : EncryptionSubkey) (damage : Damage key.secretPart) {source : Source}
    {rest : List UInt8} (hOctets : source.octets = (key.storedWith damage.apply).framed ++ rest) :
    damage.Result key (read.run source).1.outcome := by
  have hFits := key.fits_storedWith damage
  have hDecode := SecretKey.decode_damaged key.length_secret_le damage
  rw [show key.secretKey.publicKey.curve = .curve25519 from key.curve_eq] at hDecode
  obtain hResult | ⟨-, -, stored, hSame, -⟩ := hDecode
  · refine hResult.of_imp (fun error hError => ?_) fun hKey => ?_
    · exact fails_read_of_decode hFits hError source rest hOctets
    · exact (consumes_read_of_decode hFits hKey source rest hOctets).1
  · exact absurd hSame (key.not_sameChecksum damage.octet stored)

end EncryptionSubkey

/-- If one octet of a stored secret or its checksum is replaced, then reading the packet fails with an
error of the format, except that a different bit count of as many octets goes unnoticed. The first
octet of a seed can also be replaced without a change of the checksum. That is noticed by the public
key, unless the other seed has the same one, or one without a fingerprint. -/
theorem read_damaged_secret (source : Source) (rest : List UInt8) :
    (∀ key : SigningKey, key.secretPacket.outcome = .ok (key.storedWith key.secretPart).framed ∧
      ∀ damage : Damage key.secretPart,
        source.octets = (key.storedWith damage.apply).framed ++ rest →
          damage.Result key (SigningKey.read.run source).1.outcome ∨
          ∃ seed, key.OtherSeed damage seed ∧
            ((SigningKey.read.run source).1.outcome = .error .sha1Collision ∨
              ∃ other : SigningKey, other.seed = seed ∧ other.publicKey = key.publicKey ∧
                (SigningKey.read.run source).1.outcome = .ok other)) ∧
    (∀ key : EncryptionSubkey,
      key.secretPacket.outcome = .ok (key.storedWith key.secretPart).framed ∧
      ∀ damage : Damage key.secretPart,
        source.octets = (key.storedWith damage.apply).framed ++ rest →
          damage.Result key (EncryptionSubkey.read.run source).1.outcome) := by
  constructor
  · intro key
    refine ⟨?_, fun damage hOctets => key.read_damaged damage hOctets⟩
    rw [key.storedWith_secretPart, key.outcome_secretPacket]
  · intro key
    refine ⟨?_, fun damage hOctets => key.read_damaged damage hOctets⟩
    rw [key.storedWith_secretPart, key.outcome_secretPacket]

/-- The last octet of the stored seed of zeros is that of a checksum. -/
def SigningKey.zeroDamage : Damage SigningKey.zero.secretPart where
  index := 3
  octet := 5
  index_lt := by decide
  octet_ne := by decide

/-- The first octet of the stored subkey of zeros is that of a bit count. -/
def EncryptionSubkey.zeroDamage : Damage EncryptionSubkey.zero.secretPart where
  index := 0
  octet := 1
  index_lt := by decide
  octet_ne := by decide

/-- Two replaced octets that are noticed. -/
theorem read_damaged_secret_zero :
    (∃ error, (SigningKey.read.run (.ofOctets (SigningKey.zero.storedWith
        SigningKey.zeroDamage.apply).framed)).1.outcome = .error error ∧ error.kind = .format) ∧
    (∃ error, (EncryptionSubkey.read.run (.ofOctets (EncryptionSubkey.zero.storedWith
        EncryptionSubkey.zeroDamage.apply).framed)).1.outcome = .error error ∧
          error.kind = .format) := by
  constructor
  · obtain hResult | ⟨seed, hSeed, -⟩ :=
      ((read_damaged_secret _ []).1 .zero).2 SigningKey.zeroDamage (Source.octets_ofOctets_nil _)
    · exact hResult.exists_error (by decide)
    · exact absurd hSeed.index_eq (by decide)
  · have hResult := ((read_damaged_secret _ []).2 .zero).2 EncryptionSubkey.zeroDamage (Source.octets_ofOctets_nil _)
    exact hResult.exists_error (by decide)

/-- The lower octet of the bit count of the subkey of zeros, which has 255 bits. -/
def EncryptionSubkey.zeroCountDamage : Damage EncryptionSubkey.zero.secretPart where
  index := 1
  octet := 0xFE
  index_lt := by decide
  octet_ne := by decide

/-- A subkey whose bit count is replaced by another of as many octets is read as if nothing had
happened. -/
theorem EncryptionSubkey.read_recounted_zero :
    zero.secretPacket.outcome = .ok (zero.storedWith zero.secretPart).framed ∧
    zeroCountDamage.apply ≠ zero.secretPart ∧
    (read.run (.ofOctets (zero.storedWith zeroCountDamage.apply).framed)).1.outcome = .ok zero := by
  refine ⟨?_, by decide, ?_⟩
  · rw [storedWith_secretPart, outcome_secretPacket]
  · have hCounted : zero.secretKey.secret.CountedIn zeroCountDamage.apply :=
      ⟨⟨0xFE, zero.secretKey.secret.octets, by decide⟩, rfl, by decide⟩
    have hResult := zero.read_damaged zeroCountDamage (Source.octets_ofOctets_nil _)
    exact hResult.eq_of_countedIn hCounted

end PhraseKey
