import PhraseKey.Proofs.KeyAcceptance

/-!
Damage to a stored integer that is followed by its checksum. The sum is taken over the integer as it
would be written again. It tells the octets of a list apart, but the integer written again need not
differ from the one that is stored in a single octet: a bit count can be lost, and a first octet can
change the bit count.
-/

namespace PhraseKey

theorem checksum_cons (octet : UInt8) (octets : List UInt8) :
    checksum (octet :: octets) = UInt16.ofNat octet.toNat + checksum octets := by
  rw [checksum, List.foldr_cons, UInt16.ofNat_add, checksum]

theorem checksum_append (front back : List UInt8) :
    checksum (front ++ back) = checksum front + checksum back := by
  induction front with
  | nil => simp [checksum]
  | cons octet front ih => rw [List.cons_append, checksum_cons, checksum_cons, ih, UInt16.add_assoc]

/-- Octets are told apart in the sum. -/
theorem ofNat_toNat_inj {a b : UInt8} (h : UInt16.ofNat a.toNat = UInt16.ofNat b.toNat) : a = b := by
  have hNat := congrArg UInt16.toNat h
  have hA := a.toNat_lt
  have hB := b.toNat_lt
  rw [UInt16.toNat_ofNat', UInt16.toNat_ofNat'] at hNat
  exact UInt8.toNat_inj.mp (by omega)

/-- A list with one octet changed has another checksum. -/
theorem getElem?_of_checksum_set_eq {octets : List UInt8} {index : Nat} {octet : UInt8}
    (hIndex : index < octets.length) (h : checksum (octets.set index octet) = checksum octets) :
    octets[index]? = some octet := by
  induction octets generalizing index with
  | nil => cases hIndex
  | cons first rest ih =>
      cases index with
      | zero =>
          rw [List.set_cons_zero, checksum_cons, checksum_cons, UInt16.add_left_inj] at h
          rw [List.getElem?_cons_zero, ofNat_toNat_inj h]
      | succ index =>
          rw [List.set_cons_succ, checksum_cons, checksum_cons, UInt16.add_right_inj] at h
          rw [List.getElem?_cons_succ]
          exact ih (Nat.lt_of_succ_lt_succ hIndex) h

/-- Leading zeros add nothing to a checksum. -/
theorem checksum_ofOctets (octets : List UInt8) :
    checksum (Mpi.ofOctets octets).octets = checksum octets := by
  induction octets with
  | nil => rfl
  | cons first rest ih =>
      by_cases hZero : first = 0
      · rw [hZero, Mpi.ofOctets_cons_zero, ih, checksum_cons]
        simp
      · rw [Mpi.octets_ofOctets (by simpa using hZero)]

namespace Mpi

/-- An integer and its checksum, as they are stored. -/
def withChecksum (mpi : Mpi) : List UInt8 :=
  mpi.encode ++ bigEndian 2 (checksum mpi.encode).toNat

end Mpi

namespace StoredMpi

/-- What stands in a packet, and the checksum that is accepted behind it. -/
def withChecksum (stored : StoredMpi) : List UInt8 :=
  stored.encode ++ bigEndian 2 (checksum stored.value.encode).toNat

theorem length_withChecksum (stored : StoredMpi) :
    stored.withChecksum.length = stored.octets.length + 4 := by
  simp [withChecksum, encode]
  omega

theorem value_of_octets_eq {stored : StoredMpi} {mpi : Mpi} (h : stored.octets = mpi.octets) :
    stored.value = mpi := by
  rw [value, h, Mpi.ofOctets_octets]

end StoredMpi

namespace Mpi

theorem length_withChecksum (mpi : Mpi) : mpi.withChecksum.length = mpi.octets.length + 4 := by
  simp [withChecksum, encodedLength]
  omega

/-- The octets are those of the integer, behind some bit count that calls for as many. -/
def CountedIn (mpi : Mpi) (octets : List UInt8) : Prop :=
  ∃ stored : StoredMpi, stored.octets = mpi.octets ∧ octets = stored.withChecksum

/-- The first octet of the value was changed into this one, and the checksum is the same. -/
structure SameChecksum (mpi : Mpi) (octet : UInt8) (stored : StoredMpi) : Prop where
  octets_eq : ∃ first rest, mpi.octets = first :: rest ∧ octet ≠ first ∧ stored.octets = octet :: rest
  checksum_eq : checksum stored.value.encode = checksum mpi.encode

end Mpi

/-- A list that stays the same has the octet already. -/
theorem getElem?_of_set_eq_self {octets : List UInt8} {index : Nat} {octet : UInt8}
    (hIndex : index < octets.length) (h : octets.set index octet = octets) :
    octets[index]? = some octet := by
  rw [← h, List.getElem?_set_self hIndex]

namespace Mpi

variable {mpi : Mpi} {stored : StoredMpi} {index : Nat} {octet : UInt8}

theorem bigEndian_two (value : Nat) :
    bigEndian 2 value = [UInt8.ofNat (value / 256), UInt8.ofNat value] := rfl

/-- If the bit count was damaged and still calls for as many octets, then it was in its lower octet. -/
theorem index_of_count_damaged (hIndex : index < 2)
    (hOctet : (bigEndian 2 (bitLength mpi.octets))[index]? ≠ some octet)
    (hOctets : stored.octets = mpi.octets)
    (h : (bigEndian 2 (bitLength mpi.octets)).set index octet = bigEndian 2 stored.bits.toNat) :
    index = 1 := by
  match index, hIndex with
  | 1, _ => rfl
  | 0, _ =>
      rw [bigEndian_two, bigEndian_two, List.set_cons_zero, List.cons.injEq, List.cons.injEq] at h
      have hLow := congrArg UInt8.toNat h.2.1
      have hCount := stored.length_octets
      have hBits := octetCount_bitLength mpi
      rw [hOctets] at hCount
      simp only [UInt8.toNat_ofNat'] at hLow
      -- Counts of as many octets are less than eight apart, so the higher octet is the same too.
      have hSame : stored.bits.toNat = bitLength mpi.octets := by omega
      rw [hSame] at h
      refine absurd ?_ hOctet
      rw [bigEndian_two, List.getElem?_cons_zero, h.1]

/-- If the value was damaged and has the same checksum, then it was in its first octet. -/
theorem index_of_value_damaged (hIndex : index < mpi.octets.length)
    (hOctet : mpi.octets[index]? ≠ some octet)
    (h : checksum (ofOctets (mpi.octets.set index octet)).encode = checksum mpi.encode) :
    index = 0 := by
  obtain ⟨octets, hHead⟩ := mpi
  cases octets with
  | nil => cases hIndex
  | cons first rest =>
      cases index with
      | zero => rfl
      | succ index =>
          have hDamaged : (first :: rest.set index octet).head? ≠ some 0 := hHead
          rw [List.set_cons_succ, encode, encode, octets_ofOctets hDamaged] at h
          have hBits : bitLength (first :: rest.set index octet) = bitLength (first :: rest) := by
            rw [bitLength, bitLength, List.length_set]
          rw [hBits, checksum_append, checksum_append, UInt16.add_right_inj, checksum_cons,
            checksum_cons, UInt16.add_right_inj] at h
          exact absurd (getElem?_of_checksum_set_eq (Nat.lt_of_succ_lt_succ hIndex) h) hOctet

/-- If one octet of an integer was damaged and the checksum is the same, then only the bit count
differs, or the first octet of the value was damaged. -/
theorem damage_of_checksum_eq (hIndex : index < mpi.encode.length)
    (hOctet : mpi.encode[index]? ≠ some octet) (hInteger : mpi.encode.set index octet = stored.encode)
    (hChecksum : checksum stored.value.encode = checksum mpi.encode) :
    (index = 1 ∧ stored.octets = mpi.octets) ∨ (index = 2 ∧ mpi.SameChecksum octet stored) := by
  rw [length_encode, encodedLength] at hIndex
  rw [encode, StoredMpi.encode, List.set_append, length_bigEndian] at hInteger
  rw [encode, List.getElem?_append, length_bigEndian] at hOctet
  by_cases hCount : index < 2
  · rw [if_pos hCount] at hInteger hOctet
    obtain ⟨hBits, hOctets⟩ := List.append_inj hInteger (by simp)
    exact .inl ⟨index_of_count_damaged hCount hOctet hOctets.symm hBits, hOctets.symm⟩
  · rw [if_neg hCount] at hInteger hOctet
    obtain ⟨-, hOctets⟩ := List.append_inj hInteger (by simp)
    have hFirst : index - 2 = 0 := by
      refine index_of_value_damaged (by omega) hOctet ?_
      rw [hOctets]
      exact hChecksum
    rw [hFirst] at hOctets hOctet
    obtain ⟨first, rest, hValue⟩ : ∃ first rest, mpi.octets = first :: rest := by
      refine List.exists_cons_of_ne_nil fun hNil => ?_
      rw [hNil, List.length_nil] at hIndex
      omega
    rw [hValue] at hOctets hOctet
    have hNe : octet ≠ first := fun hEq => hOctet (congrArg some hEq.symm)
    exact .inr ⟨by omega, ⟨first, rest, hValue, hNe, hOctets.symm⟩, hChecksum⟩

/-- If one octet of an integer with its checksum was damaged and that is accepted, then the checksum
is what it was, and so is all of the integer but its bit count or the first octet of its value. -/
theorem accepted_damage (hIndex : index < mpi.withChecksum.length)
    (hOctet : mpi.withChecksum[index]? ≠ some octet)
    (h : mpi.withChecksum.set index octet = stored.withChecksum) :
    (index = 1 ∧ stored.octets = mpi.octets) ∨ (index = 2 ∧ mpi.SameChecksum octet stored) := by
  have hLength := congrArg List.length h
  rw [List.length_set, length_withChecksum, StoredMpi.length_withChecksum] at hLength
  have hStored : stored.encode.length = mpi.encode.length := by
    rw [StoredMpi.encode, List.length_append, length_bigEndian, length_encode, encodedLength]
    omega
  rw [withChecksum, List.length_append, length_bigEndian] at hIndex
  rw [withChecksum, StoredMpi.withChecksum, List.set_append] at h
  rw [withChecksum, List.getElem?_append] at hOctet
  by_cases hInside : index < mpi.encode.length
  · rw [if_pos hInside] at h hOctet
    obtain ⟨hInteger, hSum⟩ := List.append_inj h (by rw [List.length_set, hStored])
    refine damage_of_checksum_eq hInside hOctet hInteger ?_
    exact UInt16.toNat_inj.mp (bigEndian_inj (UInt16.toNat_lt _) (UInt16.toNat_lt _) hSum.symm)
  · rw [if_neg hInside] at h hOctet
    obtain ⟨hInteger, hSum⟩ := List.append_inj h hStored.symm
    -- The integer is what it was, so its checksum cannot be another one.
    have hValue : stored.value = mpi := by
      obtain ⟨-, hOctets⟩ := List.append_inj hInteger (by simp)
      exact StoredMpi.value_of_octets_eq hOctets.symm
    rw [hValue] at hSum
    exact absurd (getElem?_of_set_eq_self (by rw [length_bigEndian]; omega) hSum) hOctet

/-- What the two octets of a bit count add to a checksum. -/
def countSum (octets : List UInt8) : Nat :=
  bitLength octets / 256 % 256 + bitLength octets % 256

/-- The checksum of an integer, given with or without leading zeros. -/
theorem checksum_encode_ofOctets (octets : List UInt8) :
    checksum (ofOctets octets).encode =
      UInt16.ofNat (countSum (ofOctets octets).octets) + checksum octets := by
  rw [encode, checksum_append, checksum_ofOctets, bigEndian_two, countSum]
  simp [checksum]

theorem bitLength_cons {first : UInt8} (nonzero : first ≠ 0) (rest : List UInt8) :
    bitLength (first :: rest) = first.toNat.log2 + 1 + 8 * rest.length := by
  rw [bitLength, if_neg nonzero]

/-- The first octet of a clamped secret, written most significant octet first, makes it 255 bits long.
Another octet there with the same sum would have to make up for its difference in the bit count, which
changes by less. -/
theorem eq_of_checksum_eq_of_clamped {first octet : UInt8} {rest : List UInt8}
    (hLow : 64 ≤ first.toNat) (hHigh : first.toNat < 128) (hLength : rest.length = 31)
    (h : checksum (ofOctets (octet :: rest)).encode = checksum (ofOctets (first :: rest)).encode) :
    octet = first := by
  have hNonzero : first ≠ 0 := by
    rintro rfl
    cases hLow
  have hFirst : countSum (ofOctets (first :: rest)).octets = 255 := by
    have hLog : first.toNat.log2 = 6 := (Nat.log2_eq_iff (by omega)).mpr ⟨hLow, hHigh⟩
    rw [octets_ofOctets (by simpa using hNonzero), countSum, bitLength_cons hNonzero, hLog, hLength]
  rw [checksum_encode_ofOctets, checksum_encode_ofOctets, hFirst, checksum_cons, checksum_cons,
    ← UInt16.add_assoc, ← UInt16.add_assoc, UInt16.add_left_inj, ← UInt16.ofNat_add,
    ← UInt16.ofNat_add] at h
  have hSum := congrArg UInt16.toNat h
  rw [UInt16.toNat_ofNat', UInt16.toNat_ofNat'] at hSum
  have hOctet := octet.toNat_lt
  apply UInt8.toNat_inj.mp
  by_cases hZero : octet = 0
  · have hBits : bitLength (ofOctets rest).octets ≤ 248 := by
      have hShort := length_ofOctets_le rest
      have hBound := bitLength_le (ofOctets rest).octets
      omega
    rw [hZero, ofOctets_cons_zero, countSum] at hSum
    simp only [UInt8.toNat_zero] at hSum
    omega
  · have hNat : octet.toNat ≠ 0 := fun hEq => hZero (UInt8.toNat_inj.mp hEq)
    rw [octets_ofOctets (by simpa using hZero), countSum, bitLength_cons hZero, hLength] at hSum
    have hLog := log2_octet_lt hZero
    have hBelow := Nat.log2_lt (k := 6) hNat
    have hAbove := Nat.le_log2 (k := 7) hNat
    omega

end Mpi

end PhraseKey
