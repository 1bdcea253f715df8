import Mathlib.Data.List.TakeWhile
import PhraseKey.Proofs.KeyAcceptance
import PhraseKey.Proofs.Traps

/-!
The fields of a secret key, read in steps that would be traps on other octets. A limit on the bit count
stands in front of its rounding, a shape in front of the copy of a point, and a size in front of the
padding of a secret.
-/

namespace PhraseKey

open Steps

def Octets.zeros (n : Nat) : Octets n :=
  ⟨List.replicate n 0, List.length_replicate⟩

namespace Mpi

/-- The slice from the first octet on that is not zero. -/
def stripSteps (octets : List UInt8) : Except Trap (List UInt8) :=
  match octets.findIdx? (· != 0) with
  | some start => Trap.sliceFrom octets start
  | none => .ok []

/-- The bit count is rounded up within its 16 bits, and the value shares the octets it was read with. -/
def parseSteps : Steps (List UInt8) Mpi := do
  let bits ← u16 "mpi bit length"
  ensure (bits ≤ maxBits) (.oversizedMpi bits)
  let rounded ← step (Trap.within UInt16.size (bits.toNat + 7))
  let value ← take "mpi value" (rounded / 8)
  let stripped ← step (stripSteps value)
  let shared ← step (Trap.sliceRef value stripped)
  return .ofOctets shared

/-- The octets are copied behind the zeros that are missing. -/
def paddedSteps {σ : Type} (mpi : Mpi) (n : Nat) : Steps σ (Octets n) := do
  ensure (mpi.octets.length ≤ n) (.unfittingMpi mpi.octets.length n)
  let start ← step (Trap.sub n mpi.octets.length)
  step (Trap.copyInto (.zeros n) start mpi.octets)

def leadingZeros (octet : UInt8) : Nat :=
  if octet = 0 then 8 else 7 - octet.toNat.log2

def bitLengthSteps (octets : List UInt8) : Except Trap Nat := do
  if octets = [] then
    return 0
  else
    let bits ← Trap.within UInt64.size (octets.length * 8)
    let first ← Trap.index octets 0
    Trap.sub bits (leadingZeros first)

def encodeSteps (mpi : Mpi) : Except Trap (List UInt8) := do
  let bits ← bitLengthSteps mpi.octets
  return bigEndian 2 bits ++ mpi.octets

theorem stripSteps_eq (octets : List UInt8) :
    stripSteps octets = .ok (octets.dropWhile (· == 0)) := by
  have hDrop : octets.dropWhile (· == 0) = octets.drop (octets.findIdx (· != 0)) :=
    List.dropWhile_eq_drop_findIdx_not
  rw [stripSteps]
  split
  · next start hFound =>
      obtain ⟨hLess, hStart⟩ := List.findIdx?_eq_some_iff_findIdx_eq.mp hFound
      rw [Trap.sliceFrom_of_le (by omega), hDrop, ← hStart]
  · next hNone =>
      have hZeros : ∀ octet ∈ octets, (octet == 0) = true := by
        simpa using List.findIdx?_eq_none_iff.mp hNone
      rw [List.dropWhile_eq_nil_iff.mpr hZeros]

theorem ofOctets_dropWhile (octets : List UInt8) :
    ofOctets (octets.dropWhile (· == 0)) = ofOctets octets :=
  ofOctets_octets (ofOctets octets)

/-- No bit count within the limit is too large to be rounded up. -/
theorem does_parseSteps : parseSteps.Does Mpi.parse.parse := by
  apply (does_u16 _).bind
  intro _ bits _ _
  apply Does.ensure_bind
  intro hLimit
  have hBits : bits.toNat ≤ 512 := UInt16.le_iff_toNat_le.mp hLimit
  have hFits : bits.toNat + 7 < UInt16.size := by
    rw [UInt16.size]
    omega
  apply Does.step_bind (Trap.within_of_lt hFits)
  apply (does_take _ _).bind
  intro _ value _ _
  apply Does.step_bind (stripSteps_eq value)
  apply Does.step_bind (Trap.sliceRef_of_infix (List.dropWhile_suffix _).isInfix)
  rw [ofOctets_dropWhile]
  exact does_pure _

/-- A bit count that would wrap is refused before it is rounded up. -/
example : parseSteps.walk [0xFF, 0xFF, 1] = .ok (.error (.oversizedMpi 0xFFFF), [1]) := rfl

/-- What is copied has the size of its place. -/
theorem does_paddedSteps {σ : Type} (mpi : Mpi) (n : Nat) :
    (mpi.paddedSteps n : Steps σ (Octets n)).Does fun state => (mpi.padded n, state) := by
  by_cases hFits : mpi.octets.length ≤ n
  · rw [paddedSteps, ensure, if_pos hFits]
    apply Does.step_bind (Trap.sub_of_le hFits)
    have hPlace : n - mpi.octets.length + mpi.octets.length = n := Nat.sub_add_cancel hFits
    have hZeros : (Octets.zeros n).toList.take (n - mpi.octets.length) =
        List.replicate (n - mpi.octets.length) 0 := by
      simp [Octets.zeros]
    intro state
    simp only [Trap.copyInto_of_length hPlace, hZeros, padded, dif_pos hFits]
    rfl
  · rw [paddedSteps, ensure, if_neg hFits, padded, dif_neg hFits]
    exact fun _ => rfl

theorem bitLengthSteps_eq {octets : List UInt8} (short : octets.length ≤ 64) :
    bitLengthSteps octets = .ok (bitLength octets) := by
  cases octets with
  | nil => rfl
  | cons first rest =>
      rw [List.length_cons] at short
      have hBits : (first :: rest).length * 8 < UInt64.size := by
        rw [List.length_cons, UInt64.size]
        omega
      have hZeros : leadingZeros first ≤ (first :: rest).length * 8 := by
        rw [leadingZeros, List.length_cons]
        split <;> omega
      have hDifference : (first :: rest).length * 8 - leadingZeros first =
          bitLength (first :: rest) := by
        rw [leadingZeros, List.length_cons, bitLength]
        split
        · omega
        · next hFirst =>
            have hLog := log2_octet_lt hFirst
            omega
      rw [bitLengthSteps, if_neg (List.cons_ne_nil _ _), Trap.within_of_lt hBits]
      change Trap.sub _ (leadingZeros first) = _
      rw [Trap.sub_of_le hZeros, hDifference]

theorem encodeSteps_eq {mpi : Mpi} (short : mpi.octets.length ≤ 64) :
    mpi.encodeSteps = .ok mpi.encode := by
  rw [encodeSteps, bitLengthSteps_eq short]
  rfl

end Mpi

namespace PublicKey

/-- The first octet is looked at only if there are 33. -/
def isPointSteps (value : Mpi) : Except Trap Bool := do
  if value.octets.length = 33 then
    let first ← Trap.index value.octets 0
    return first = nativePoint
  else
    return false

/-- Derivation parameters are only looked for on the curve that has them. -/
def parseSteps (curve : Curve) : Steps (List UInt8) PublicKey := do
  let found ← u8 "key version"
  ensure (found = version) (.unsupportedKeyVersion version found)
  let created ← u32 "key creation time"
  let algorithm := PublicKeyAlgorithm.ofId (← u8 "public key algorithm")
  ensure (algorithm = curve.algorithm) (.unexpectedAlgorithm curve.algorithm algorithm)
  let oidLength ← u8 "curve oid length"
  ensure (oidLength.toNat = curve.oid.length)
    (.unexpectedOidLength curve.oid.length oidLength.toNat)
  tag "curve oid" curve.oid
  let value ← Mpi.parseSteps
  let isPoint ← step (isPointSteps value)
  ensure (isPoint = true) (.invalidPoint curve)
  let coordinate ← step (Trap.sliceFrom value.octets 1)
  let point ← step (Trap.copyInto (.zeros 32) 0 coordinate)
  match curve with
  | .ed25519 => return ⟨⟨created⟩, .ed25519, point⟩
  | .curve25519 =>
    tag "ecdh kdf parameters" (derivation .curve25519)
    return ⟨⟨created⟩, .curve25519, point⟩

def pointMpiSteps (key : PublicKey) : Except Trap Mpi := do
  let octets : Octets 33 := ⟨nativePoint :: List.replicate 32 0, rfl⟩
  let filled ← Trap.copyInto octets 1 key.point.toList
  let stripped ← Mpi.stripSteps filled.toList
  return .ofOctets stripped

def encodedLengthSteps (key : PublicKey) : Except Trap Nat := do
  let point ← key.pointMpiSteps
  Trap.sumWithin UInt64.size [1, Timestamp.encodedLength, 1, 1 + key.curve.oid.length,
    point.encodedLength, (derivation key.curve).length]

def encodeSteps (key : PublicKey) : Except Trap (List UInt8) := do
  let point ← key.pointMpiSteps
  let stored ← point.encodeSteps
  return version :: key.created.encode ++ key.curve.algorithm.id ::
    UInt8.ofNat key.curve.oid.length :: key.curve.oid ++ stored ++ derivation key.curve

def preimageSteps (key : PublicKey) : Except Trap (List UInt8) := do
  let length ← key.encodedLengthSteps
  let octets ← key.encodeSteps
  return 0x99 :: bigEndian 2 length ++ octets

theorem isPointSteps_eq (value : Mpi) : isPointSteps value = .ok (point? value).isSome := by
  cases hOctets : value.octets with
  | nil =>
      rw [isPointSteps, point?, hOctets]
      rfl
  | cons first rest =>
      rw [isPointSteps, point?, hOctets, Trap.index_cons_zero]
      by_cases hLength : rest.length = 32
      · by_cases hFirst : first = nativePoint
        · simp [hLength, hFirst, Octets.ofList?]
        · simp [hLength, hFirst]
      · simp [hLength, Octets.ofList?]
        rfl

/-- What passes for a point has the shape that is copied. -/
theorem does_parseSteps (curve : Curve) : (parseSteps curve).Does (parse curve).parse := by
  apply (does_u8 _).bind
  intro _ found _ _
  apply Does.ensure_bind
  intro _
  apply (does_u32 _).bind
  intro _ created _ _
  apply (does_u8 _).bind
  intro _ algorithm _ _
  apply Does.ensure_bind
  intro _
  apply (does_u8 _).bind
  intro _ oidLength _ _
  apply Does.ensure_bind
  intro _
  apply (does_tag _ _).bind
  intro _ _ _ _
  apply Mpi.does_parseSteps.bind
  intro _ value _ _
  apply Does.step_bind (isPointSteps_eq value)
  cases hPoint : point? value with
  | none => exact does_fail _
  | some point =>
      -- From here on the steps copy what the function has found already.
      have hOctets := octets_of_point? hPoint
      have hSlice : Trap.sliceFrom value.octets 1 = .ok point.toList := by
        rw [hOctets]
        exact Trap.sliceFrom_of_le (by simp)
      have hCopied : 0 + point.toList.length = 32 := by
        rw [Octets.length_toList]
      apply Does.step_bind hSlice
      apply Does.step_bind (Trap.copyInto_of_length hCopied)
      -- Only one curve has parameters to look for, and a tag of no octets takes nothing off.
      cases curve with
      | ed25519 => exact fun _ => rfl
      | curve25519 =>
          apply (does_tag _ _).bind
          intro _ _ _ _
          exact does_pure _

theorem pointMpiSteps_eq (key : PublicKey) : key.pointMpiSteps = .ok key.pointMpi := by
  have hCopied : 1 + key.point.toList.length = 33 := by
    rw [Octets.length_toList]
  rw [pointMpiSteps, Trap.copyInto_of_length hCopied]
  change (Mpi.stripSteps (nativePoint :: key.point.toList) >>= fun stripped =>
    pure (Mpi.ofOctets stripped)) = _
  rw [Mpi.stripSteps_eq]
  exact congrArg Except.ok (Mpi.ofOctets_dropWhile _)

theorem encodedLengthSteps_eq (key : PublicKey) :
    key.encodedLengthSteps = .ok key.encodedLength := by
  have hSum : [1, Timestamp.encodedLength, 1, 1 + key.curve.oid.length, key.pointMpi.encodedLength,
      (derivation key.curve).length].foldr (· + ·) 0 = key.encodedLength := by
    simp only [List.foldr_cons, List.foldr_nil, encodedLength]
    omega
  have hFits : key.encodedLength < UInt64.size :=
    Nat.lt_of_le_of_lt key.encodedLength_le (by decide)
  rw [encodedLengthSteps, pointMpiSteps_eq]
  change Trap.sumWithin _ _ = _
  rw [← hSum] at hFits ⊢
  exact Trap.sumWithin_of_lt hFits

theorem preimageSteps_eq (key : PublicKey) : key.preimageSteps = .ok key.preimage := by
  rw [preimageSteps, encodedLengthSteps_eq, encodeSteps, pointMpiSteps_eq]
  simp only [bind, Except.bind]
  rw [Mpi.encodeSteps_eq key.length_octets_pointMpi_le]
  rfl

end PublicKey

namespace Checksum

/-- The octets are added up in 32 bits, of which the lower half is kept. -/
def sumSteps (octets : List UInt8) : Except Trap UInt16 := do
  let sum ← Trap.sumWithin UInt32.size (octets.map UInt8.toNat)
  return UInt16.ofNat sum

def verifySteps {σ : Type} (stored : Octets 2) (octets : List UInt8) : Steps σ Unit := do
  let sum ← step (sumSteps octets)
  let value := UInt16.ofNat (ofBigEndian stored.toList)
  ensure (value = sum) (.differingChecksum sum value)

theorem sum_toNat_le (octets : List UInt8) :
    octets.foldr (fun octet sum => octet.toNat + sum) 0 ≤ 255 * octets.length := by
  induction octets with
  | nil => rfl
  | cons octet rest ih =>
      have hOctet := octet.toNat_lt
      rw [List.foldr_cons, List.length_cons]
      omega

theorem sumSteps_eq {octets : List UInt8} (short : octets.length ≤ 66) :
    sumSteps octets = .ok (checksum octets) := by
  have hSum := sum_toNat_le octets
  have hFits : (octets.map UInt8.toNat).foldr (· + ·) 0 < UInt32.size := by
    rw [List.foldr_map, UInt32.size]
    omega
  rw [sumSteps, Trap.sumWithin_of_lt hFits, List.foldr_map]
  rfl

theorem does_verifySteps {σ : Type} (stored : Octets 2) {octets : List UInt8}
    (short : octets.length ≤ 66) :
    (verifySteps stored octets : Steps σ Unit).Does fun state => (verify stored octets, state) := by
  apply Does.step_bind (sumSteps_eq short)
  intro state
  rw [ensure, verify]
  split <;> rfl

end Checksum

namespace SecretKey

/-- The checksum is computed from the secret as it would be written again. -/
def parseSteps (curve : Curve) : Steps (List UInt8) SecretKey := do
  let publicKey ← PublicKey.parseSteps curve
  let usage ← u8 "s2k usage"
  ensure (usage = unprotected) (.protectedSecret unprotected usage)
  let secret ← Mpi.parseSteps
  let stored ← array "secret key checksum" 2
  let encoded ← step secret.encodeSteps
  Checksum.verifySteps stored encoded
  finish .trailingData
  return ⟨publicKey, secret⟩

/-- A secret that was read is short enough for its checksum. -/
theorem does_parseSteps (curve : Curve) : (parseSteps curve).Does (parse curve).parse := by
  apply (PublicKey.does_parseSteps curve).bind
  intro _ publicKey _ _
  apply (does_u8 _).bind
  intro _ usage _ _
  apply Does.ensure_bind
  intro _
  apply Mpi.does_parseSteps.bind
  intro _ secret _ hSecret
  have hShort := Mpi.length_octets_of_parse hSecret
  have hStored : secret.encode.length ≤ 66 := by
    rw [Mpi.length_encode, Mpi.encodedLength]
    omega
  apply (does_array _ _).bind
  intro _ stored _ _
  apply Does.step_bind (Mpi.encodeSteps_eq hShort)
  have hVerify : (Checksum.verifySteps stored secret.encode : Steps (List UInt8) Unit).Does
      (liftM (Checksum.verify stored secret.encode) : Parser Unit).parse :=
    Checksum.does_verifySteps stored hStored
  apply hVerify.bind
  intro _ _ _ _
  apply (does_finish _).bind
  intro _ _ _ _
  exact does_pure _

end SecretKey

end PhraseKey
