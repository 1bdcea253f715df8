import PhraseKey.Key.SecretKey
import PhraseKey.Proofs.FieldAcceptance
import PhraseKey.Proofs.KeyReading

/-!
Secret key bodies that were accepted. Every field of such a body is known but for its integers, which
need not be in their canonical form: a bit count is only rounded up to octets, and zeros may stand in
front. A body whose integers are canonical is the one that is written for the key.
-/

namespace PhraseKey

/-- Octets that are those of an integer already. -/
theorem Mpi.octets_ofOctets {octets : List UInt8} (noLeadingZero : octets.head? ≠ some 0) :
    (ofOctets octets).octets = octets :=
  congrArg Mpi.octets (ofOctets_octets ⟨octets, noLeadingZero⟩)

/-- An integer as it stands in a packet: some bit count, and as many octets as it calls for. -/
structure StoredMpi where
  bits : UInt16
  octets : List UInt8
  length_octets : octets.length = (bits.toNat + 7) / 8

namespace StoredMpi

def encode (stored : StoredMpi) : List UInt8 :=
  bigEndian 2 stored.bits.toNat ++ stored.octets

/-- The integer denoted, for which neither the bit count nor leading zeros matter. -/
def value (stored : StoredMpi) : Mpi :=
  .ofOctets stored.octets

/-- The bit count is exact, and no octet in front is zero. -/
structure Canonical (stored : StoredMpi) : Prop where
  bitLength_eq : Mpi.bitLength stored.octets = stored.bits.toNat
  noLeadingZero : stored.octets.head? ≠ some 0

/-- A canonical integer is written as it stands. -/
theorem Canonical.encode_value {stored : StoredMpi} (canonical : stored.Canonical) :
    stored.value.encode = stored.encode := by
  rw [Mpi.encode, value, Mpi.octets_ofOctets canonical.noLeadingZero, canonical.bitLength_eq, encode]

/-- A stored integer ends where its own bit count says, so it is known from its octets. -/
theorem encode_append_inj {first second : StoredMpi} {rest rest' : List UInt8}
    (h : first.encode ++ rest = second.encode ++ rest') : first = second ∧ rest = rest' := by
  obtain ⟨bits, octets, hLength⟩ := first
  obtain ⟨bits', octets', hLength'⟩ := second
  simp only [encode, List.append_assoc] at h
  obtain ⟨hBits, hOctets⟩ := List.append_inj h (by rw [length_bigEndian, length_bigEndian])
  have hBitsEq : bits = bits' :=
    UInt16.toNat_inj.mp (bigEndian_inj bits.toNat_lt bits'.toNat_lt hBits)
  subst hBitsEq
  obtain ⟨rfl, hRest⟩ := List.append_inj hOctets (hLength.trans hLength'.symm)
  exact ⟨rfl, hRest⟩

/-- The canonical form of an integer. -/
def ofMpi (mpi : Mpi) (small : mpi.octets.length ≤ 64) : StoredMpi where
  bits := UInt16.ofNat (Mpi.bitLength mpi.octets)
  octets := mpi.octets
  length_octets := by
    have hBits := Mpi.bitLength_le mpi.octets
    have hCount := Mpi.octetCount_bitLength mpi
    rw [UInt16.toNat_ofNat']
    omega

theorem value_ofMpi (mpi : Mpi) (small : mpi.octets.length ≤ 64) :
    (ofMpi mpi small).value = mpi :=
  Mpi.ofOctets_octets mpi

theorem canonical_ofMpi (mpi : Mpi) (small : mpi.octets.length ≤ 64) :
    (ofMpi mpi small).Canonical where
  bitLength_eq := by
    have hBits := Mpi.bitLength_le mpi.octets
    simp only [ofMpi, UInt16.toNat_ofNat']
    omega
  noLeadingZero := mpi.noLeadingZero

end StoredMpi

/-- A bit count that is not too large stands in front of 64 octets at most. -/
theorem StoredMpi.length_octets_le {stored : StoredMpi} (small : stored.bits ≤ Mpi.maxBits) :
    stored.octets.length ≤ 64 := by
  have hBits : stored.bits.toNat ≤ 512 := UInt16.le_iff_toNat_le.mp small
  have hLength := stored.length_octets
  omega

/-- A bit count that is not too large is read with as many octets as it calls for. -/
theorem StoredMpi.reads_encode (stored : StoredMpi) (small : stored.bits ≤ Mpi.maxBits) :
    Mpi.parse.Reads stored.encode stored.value := by
  have hBits := Parser.reads_u16 "mpi bit length" stored.bits.toNat
  rw [UInt16.ofNat_toNat] at hBits
  refine hBits.bind (.of_ensure small ?_)
  exact (Parser.reads_take _ stored.length_octets).map Mpi.ofOctets

namespace Mpi

theorem accepts_parse :
    Mpi.parse.Accepts fun front value => ∃ stored : StoredMpi,
      front = stored.encode ∧ stored.value = value ∧ stored.bits ≤ maxBits := by
  refine (Parser.accepts_u16 _).bind ?_
  rintro _ bits rfl
  refine (Parser.accepts_ensure _ _).after ?_
  rintro _ hLimit
  refine (Parser.accepts_take _ _).bind ?_
  rintro value _ ⟨rfl, hLength⟩
  refine Parser.accepts_pure ⟨⟨bits, value, hLength⟩, ?_, rfl, hLimit⟩
  simp [StoredMpi.encode]

/-- Integers that are read are as short as the limit says. -/
theorem length_octets_of_parse {octets left : List UInt8} {mpi : Mpi}
    (h : Mpi.parse.parse octets = (.ok mpi, left)) : mpi.octets.length ≤ 64 := by
  obtain ⟨_, -, stored, -, rfl, hLimit⟩ := accepts_parse octets mpi left h
  exact Nat.le_trans (length_ofOctets_le stored.octets) (StoredMpi.length_octets_le hLimit)

theorem failsAsFormat_parse : Mpi.parse.FailsAsFormat := by
  refine (Parser.failsAsFormat_u16 _).bind fun _ => ?_
  refine (Parser.failsAsFormat_ensure rfl).bind fun _ => ?_
  exact (Parser.failsAsFormat_take _ _).bind fun _ => Parser.failsAsFormat_pure _

/-- Zeros in front of an octet string do not count. -/
theorem ofOctets_replicate_append (count : Nat) (octets : List UInt8) :
    ofOctets (List.replicate count 0 ++ octets) = ofOctets octets := by
  induction count with
  | zero => rfl
  | succ count ih => rw [List.replicate_succ, List.cons_append, ofOctets_cons_zero, ih]

/-- A value of fixed size has the integer that it was padded from. -/
theorem ofOctets_of_padded {value : Mpi} {n : Nat} {octets : Octets n}
    (h : value.padded n = .ok octets) : ofOctets octets.toList = value := by
  rw [padded] at h
  split at h
  · cases h
    rw [ofOctets_replicate_append, ofOctets_octets]
  · cases h

end Mpi

/-- A secret key as it stands in a packet. -/
structure StoredKey where
  created : Timestamp
  point : StoredMpi
  secret : StoredMpi

namespace StoredKey

/-- The public part, of which only the creation time and the point can differ between the keys of a
curve. -/
def publicPart (curve : Curve) (created : Timestamp) (point : StoredMpi) : List UInt8 :=
  PublicKey.version :: created.encode ++ curve.algorithm.id ::
    UInt8.ofNat curve.oid.length :: curve.oid ++ point.encode ++ PublicKey.derivation curve

/-- The body. Its checksum is that of the secret as it would be written again, not as it stands. -/
def body (curve : Curve) (stored : StoredKey) : List UInt8 :=
  publicPart curve stored.created stored.point ++ SecretKey.unprotected :: stored.secret.encode ++
    bigEndian 2 (checksum stored.secret.value.encode).toNat

/-- The fields are those of the key. -/
structure Holds (stored : StoredKey) (key : SecretKey) : Prop where
  created_eq : stored.created = key.publicKey.created
  point_eq : stored.point.value = key.publicKey.pointMpi
  secret_eq : stored.secret.value = key.secret

/-- A body with canonical integers is the one that is written for its key. -/
theorem body_eq {curve : Curve} {stored : StoredKey} {key : SecretKey} (holds : stored.Holds key)
    (hCurve : key.publicKey.curve = curve) (hPoint : stored.point.Canonical)
    (hSecret : stored.secret.Canonical) : stored.body curve = key.body := by
  subst hCurve
  have hPublic : publicPart key.publicKey.curve stored.created stored.point =
      key.publicKey.encode := by
    rw [publicPart, holds.created_eq, ← hPoint.encode_value, holds.point_eq, PublicKey.encode]
  rw [body, hPublic, ← hSecret.encode_value, holds.secret_eq, SecretKey.body]

/-- The fields of a body are known from its octets. -/
theorem body_inj {curve : Curve} {first second : StoredKey}
    (h : first.body curve = second.body curve) : first = second := by
  obtain ⟨created, point, secret⟩ := first
  obtain ⟨created', point', secret'⟩ := second
  simp only [body, publicPart, List.cons_append, List.append_assoc, List.cons.injEq, true_and] at h
  obtain ⟨hCreated, h⟩ := List.append_inj h (by rw [Timestamp.length_encode, Timestamp.length_encode])
  simp only [List.cons.injEq, true_and, List.append_cancel_left_eq] at h
  obtain ⟨rfl, h⟩ := StoredMpi.encode_append_inj h
  simp only [List.cons.injEq, true_and, List.append_cancel_left_eq] at h
  obtain ⟨rfl, -⟩ := StoredMpi.encode_append_inj h
  have hSeconds : created.seconds = created'.seconds :=
    UInt32.toNat_inj.mp (bigEndian_inj created.seconds.toNat_lt created'.seconds.toNat_lt hCreated)
  rw [show created = created' from congrArg Timestamp.mk hSeconds]

end StoredKey

theorem PublicKey.length_octets_pointMpi_le (key : PublicKey) : key.pointMpi.octets.length ≤ 64 := by
  rw [octets_pointMpi, List.length_cons, Octets.length_toList]
  decide

/-- The fields of a key as they are written. -/
def SecretKey.fields (key : SecretKey) (small : key.secret.octets.length ≤ 64) : StoredKey where
  created := key.publicKey.created
  point := .ofMpi key.publicKey.pointMpi key.publicKey.length_octets_pointMpi_le
  secret := .ofMpi key.secret small

theorem SecretKey.body_fields (key : SecretKey) (small : key.secret.octets.length ≤ 64) :
    (key.fields small).body key.publicKey.curve = key.body := by
  have hPoint := key.publicKey.length_octets_pointMpi_le
  exact StoredKey.body_eq ⟨rfl, StoredMpi.value_ofMpi _ hPoint, StoredMpi.value_ofMpi _ small⟩ rfl
    (StoredMpi.canonical_ofMpi _ hPoint) (StoredMpi.canonical_ofMpi _ small)

namespace PublicKey

/-- A value that is taken for a point has its prefix and all of its octets. -/
theorem octets_of_point? {value : Mpi} {point : Octets 32} (h : point? value = some point) :
    value.octets = nativePoint :: point.toList := by
  rw [point?] at h
  split at h
  · next first tail hOctets =>
      split at h
      · next hFirst =>
          rw [hOctets, hFirst]
          simp only [Octets.ofList?] at h
          split at h
          · cases h
            rfl
          · cases h
      · cases h
  · cases h

theorem accepts_parse (curve : Curve) :
    (parse curve).Accepts fun front key => key.curve = curve ∧ ∃ point : StoredMpi,
      front = StoredKey.publicPart curve key.created point ∧ point.value = key.pointMpi := by
  refine (Parser.accepts_u8 _).bind ?_
  rintro _ found rfl
  refine (Parser.accepts_ensure _ _).after ?_
  rintro _ rfl
  refine (Parser.accepts_u32 _).bind ?_
  rintro _ created rfl
  refine (Parser.accepts_u8 _).bind ?_
  rintro _ algorithm rfl
  refine (Parser.accepts_ensure _ _).after ?_
  rintro _ hAlgorithm
  refine (Parser.accepts_u8 _).bind ?_
  rintro _ oidLength rfl
  refine (Parser.accepts_ensure _ _).after ?_
  rintro _ hLength
  refine (Parser.accepts_tag _ _).bind ?_
  rintro _ _ rfl
  refine Mpi.accepts_parse.bind ?_
  rintro _ _ ⟨stored, rfl, rfl, -⟩
  cases hPoint : point? stored.value with
  | none => exact Parser.accepts_fail _
  | some point =>
      refine (Parser.accepts_tag _ _).bind ?_
      rintro _ _ rfl
      have hId : algorithm = curve.algorithm.id := by
        rw [← hAlgorithm, PublicKeyAlgorithm.id_ofId]
      have hOidLength : oidLength = UInt8.ofNat curve.oid.length := by
        rw [← hLength, UInt8.ofNat_toNat]
      have hValue : stored.value = pointMpi ⟨⟨created⟩, curve, point⟩ := by
        ext1
        rw [octets_of_point? hPoint, octets_pointMpi]
      refine Parser.accepts_pure ⟨rfl, stored, ?_, hValue⟩
      simp [StoredKey.publicPart, Timestamp.encode, hId, hOidLength]

/-- The public part is refused for reasons of the format only. -/
theorem failsAsFormat_parse (curve : Curve) : (parse curve).FailsAsFormat := by
  refine (Parser.failsAsFormat_u8 _).bind fun _ => ?_
  refine (Parser.failsAsFormat_ensure rfl).bind fun _ => ?_
  refine (Parser.failsAsFormat_u32 _).bind fun _ => ?_
  refine (Parser.failsAsFormat_u8 _).bind fun _ => ?_
  refine (Parser.failsAsFormat_ensure rfl).bind fun _ => ?_
  refine (Parser.failsAsFormat_u8 _).bind fun _ => ?_
  refine (Parser.failsAsFormat_ensure rfl).bind fun _ => ?_
  refine (Parser.failsAsFormat_tag _ _).bind fun _ => ?_
  refine Mpi.failsAsFormat_parse.bind fun value => ?_
  cases point? value with
  | none => exact Parser.failsAsFormat_fail rfl
  | some point =>
      exact (Parser.failsAsFormat_tag _ _).bind fun _ => Parser.failsAsFormat_pure _

end PublicKey

namespace Checksum

/-- Octets are verified by their checksum only. -/
theorem eq_of_verify_eq_ok {stored : Octets 2} {octets : List UInt8}
    (h : verify stored octets = .ok ()) :
    stored.toList = bigEndian 2 (checksum octets).toNat := by
  rw [verify] at h
  split at h
  · next hValue =>
      rw [← hValue]
      exact (bigEndian_two_ofBigEndian stored).symm
  · cases h

theorem kind_of_verify_eq_error {stored : Octets 2} {octets : List UInt8} {error : Error}
    (h : verify stored octets = .error error) : error.kind = .format := by
  rw [verify] at h
  split at h
  · cases h
  · cases h
    rfl

end Checksum

namespace SecretKey

/-- The secret with its checksum, which is all that stands behind the public part. -/
def parseSecret : Parser Mpi := do
  let secret ← Mpi.parse
  let stored ← Parser.array "secret key checksum" 2
  Checksum.verify stored secret.encode
  return secret

/-- All that a body consists of. -/
def parseFields (curve : Curve) : Parser SecretKey := do
  let publicKey ← PublicKey.parse curve
  let usage ← Parser.u8 "s2k usage"
  Parser.ensure (usage = unprotected) (.protectedSecret unprotected usage)
  let secret ← parseSecret
  return ⟨publicKey, secret⟩

theorem parse_eq (curve : Curve) :
    parse curve = (do let key ← parseFields curve; Parser.finish .trailingData; return key) := by
  simp [parse, parseFields, parseSecret]

theorem accepts_parseSecret :
    parseSecret.Accepts fun front value => ∃ stored : StoredMpi, stored.value = value ∧
      front = stored.encode ++ bigEndian 2 (checksum stored.value.encode).toNat := by
  refine Mpi.accepts_parse.bind ?_
  rintro _ _ ⟨stored, rfl, rfl, -⟩
  refine (Parser.accepts_array _ _).bind ?_
  rintro _ sum rfl
  refine (Parser.accepts_ofExcept _).after fun _ hVerified => ?_
  refine Parser.accepts_pure ⟨stored, rfl, ?_⟩
  rw [List.append_nil, Checksum.eq_of_verify_eq_ok hVerified]

/-- A body that is accepted has the fields of its key, and nothing else. -/
theorem exists_of_decode_eq_ok {curve : Curve} {octets : List UInt8} {key : SecretKey}
    (h : decode curve octets = .ok key) :
    key.publicKey.curve = curve ∧ ∃ stored : StoredKey, octets = stored.body curve ∧
      stored.Holds key := by
  have hFields : (parseFields curve).Accepts fun front key => key.publicKey.curve = curve ∧
      ∃ stored : StoredKey, front = stored.body curve ∧ stored.Holds key := by
    refine (PublicKey.accepts_parse curve).bind ?_
    rintro _ publicKey ⟨hCurve, point, rfl, hPoint⟩
    refine (Parser.accepts_u8 _).bind ?_
    rintro _ usage rfl
    refine (Parser.accepts_ensure _ _).after ?_
    rintro _ rfl
    refine accepts_parseSecret.bind ?_
    rintro _ _ ⟨secret, rfl, rfl⟩
    refine Parser.accepts_pure ⟨hCurve, ⟨publicKey.created, point, secret⟩, ?_, rfl, hPoint, rfl⟩
    simp [StoredKey.body]
  rw [decode, parse_eq] at h
  exact hFields.of_parse_finish h

theorem kind_of_decode_eq_error {curve : Curve} {octets : List UInt8} {error : Error}
    (h : decode curve octets = .error error) : error.kind = .format := by
  have hParse : (parse curve).FailsAsFormat := by
    refine (PublicKey.failsAsFormat_parse curve).bind fun _ => ?_
    refine (Parser.failsAsFormat_u8 _).bind fun _ => ?_
    refine (Parser.failsAsFormat_ensure rfl).bind fun _ => ?_
    refine Mpi.failsAsFormat_parse.bind fun _ => ?_
    refine (Parser.failsAsFormat_array _ _).bind fun _ => ?_
    refine (Parser.failsAsFormat_ofExcept fun _ => Checksum.kind_of_verify_eq_error).bind fun _ => ?_
    exact (Parser.failsAsFormat_finish rfl).bind fun _ => Parser.failsAsFormat_pure _
  exact hParse octets error h

end SecretKey

end PhraseKey
