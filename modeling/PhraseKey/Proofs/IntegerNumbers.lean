import Mathlib.Logic.Function.Basic
import PhraseKey.Proofs.KeyAcceptance

/-!
Integers as numbers. Every natural number is denoted by exactly one integer, so octet strings that
differ in leading zeros become the same integer, and what is stored in another form is read as the
integer of its number.
-/

namespace PhraseKey.Mpi

/-- Leading zeros do not change the number that is spelled. -/
theorem toNat_ofOctets (octets : List UInt8) : (ofOctets octets).toNat = ofBigEndian octets := by
  induction octets with
  | nil => rfl
  | cons octet rest ih =>
      by_cases hZero : octet = 0
      · subst hZero
        rw [ofOctets_cons_zero, ih, ofBigEndian_cons]
        simp
      · have hOctets : (ofOctets (octet :: rest)).octets = octet :: rest :=
          octets_ofOctets (by simpa using hZero)
        rw [toNat, hOctets]

/-- An integer has no more octets than its number needs. -/
theorem length_octets_le_iff {mpi : Mpi} {n : Nat} : mpi.octets.length ≤ n ↔ mpi.toNat < 256 ^ n := by
  have hSize : Nat.size mpi.toNat ≤ 8 * n ↔ mpi.toNat < 256 ^ n := by
    rw [Nat.size_le, Nat.pow_mul]
  rw [← hSize, ← bitLength_eq_size, ← octetCount_bitLength]
  omega

/-- An integer is known from its number, which says how many octets it has. -/
theorem toNat_injective : Function.Injective toNat := by
  intro first second h
  have hLength : first.octets.length = second.octets.length := by
    rw [← octetCount_bitLength, ← octetCount_bitLength, bitLength_eq_size, bitLength_eq_size, h]
  ext1
  calc
    first.octets = bigEndian first.octets.length first.toNat :=
      (bigEndian_ofBigEndian first.octets).symm
    _ = bigEndian second.octets.length second.toNat := by rw [hLength, h]
    _ = second.octets := bigEndian_ofBigEndian second.octets

/-- Every number is the number of an integer. -/
theorem toNat_surjective : Function.Surjective toNat := by
  intro value
  have hFits : value < 256 ^ value := Nat.lt_pow_self (by decide)
  refine ⟨ofOctets (bigEndian value value), ?_⟩
  rw [toNat_ofOctets, ofBigEndian_bigEndian, Nat.mod_eq_of_lt hFits]

theorem ofOctets_eq_iff {first second : List UInt8} :
    ofOctets first = ofOctets second ↔ ofBigEndian first = ofBigEndian second := by
  rw [← toNat_ofOctets, ← toNat_ofOctets, toNat_injective.eq_iff]

/-- Padding writes the number in as many octets as are asked for. -/
theorem padded_eq (mpi : Mpi) (n : Nat) :
    mpi.padded n =
      if mpi.toNat < 256 ^ n then .ok ⟨bigEndian n mpi.toNat, length_bigEndian ..⟩
      else .error (.unfittingMpi mpi.octets.length n) := by
  by_cases hFits : mpi.toNat < 256 ^ n
  · -- The octets of the number have the same integer, which comes back padded.
    have hInteger : ofOctets (bigEndian n mpi.toNat) = mpi := by
      apply toNat_injective
      rw [toNat_ofOctets, ofBigEndian_bigEndian, Nat.mod_eq_of_lt hFits]
    have hPadded := padded_ofOctets ⟨bigEndian n mpi.toNat, length_bigEndian ..⟩
    rw [if_pos hFits, ← hPadded]
    exact congrArg (padded · n) hInteger.symm
  · have hLong : ¬ mpi.octets.length ≤ n := fun h => hFits (length_octets_le_iff.mp h)
    rw [if_neg hFits, padded, dif_neg hLong]

/-- The largest numbers that are read have 64 octets. -/
theorem length_octets_le_64_iff {mpi : Mpi} : mpi.octets.length ≤ 64 ↔ mpi.toNat < 2 ^ 512 := by
  rw [length_octets_le_iff, show 512 = 8 * 64 from rfl, Nat.pow_mul]

/-- Numbers below `2 ^ 512` are read back. -/
theorem reads_encode_of_lt {mpi : Mpi} (small : mpi.toNat < 2 ^ 512) :
    Mpi.parse.Reads mpi.encode mpi :=
  reads_encode mpi (length_octets_le_64_iff.mpr small)

/-- Integers that were read are read back, whatever form they were stored in. -/
theorem reads_encode_of_parse {octets left : List UInt8} {mpi : Mpi}
    (h : Mpi.parse.parse octets = (.ok mpi, left)) : Mpi.parse.Reads mpi.encode mpi :=
  reads_encode mpi (length_octets_of_parse h)

/-- Integers are a canonical form of the natural numbers. Each number is that of exactly one integer,
and octet strings have the same integer exactly if they spell the same number. Numbers below `2 ^ 512`
are read back, whatever follows them. What is read denotes the number in the octets behind the bit
count, and is read back itself. Padding succeeds exactly for numbers that fit, which it writes in full,
so a value of fixed size comes back from its integer. -/
theorem canonical_number :
    Function.Bijective toNat ∧
    (∀ octets, (ofOctets octets).toNat = ofBigEndian octets) ∧
    (∀ first second, ofOctets first = ofOctets second ↔ ofBigEndian first = ofBigEndian second) ∧
    (∀ mpi : Mpi, mpi.toNat < 2 ^ 512 →
      ∀ rest, Mpi.parse.parse (mpi.encode ++ rest) = (.ok mpi, rest)) ∧
    (∀ octets mpi left, Mpi.parse.parse octets = (.ok mpi, left) →
      (∃ (bits : UInt16) (value : List UInt8), octets = bigEndian 2 bits.toNat ++ value ++ left ∧
        bits ≤ 512 ∧ value.length = (bits.toNat + 7) / 8 ∧ mpi.toNat = ofBigEndian value) ∧
      ∀ rest, Mpi.parse.parse (mpi.encode ++ rest) = (.ok mpi, rest)) ∧
    (∀ (mpi : Mpi) n, mpi.padded n =
      if mpi.toNat < 256 ^ n then .ok ⟨bigEndian n mpi.toNat, length_bigEndian ..⟩
      else .error (.unfittingMpi mpi.octets.length n)) ∧
    ∀ n (octets : Octets n), (ofOctets octets.toList).padded n = .ok octets := by
  refine ⟨⟨toNat_injective, toNat_surjective⟩, toNat_ofOctets, fun _ _ => ofOctets_eq_iff,
    fun _ => reads_encode_of_lt, ?_, padded_eq, fun _ => padded_ofOctets⟩
  intro octets mpi left hParse
  refine ⟨?_, reads_encode_of_parse hParse⟩
  obtain ⟨_, hOctets, stored, rfl, rfl, hLimit⟩ := accepts_parse octets mpi left hParse
  exact ⟨stored.bits, stored.octets, hOctets, hLimit, stored.length_octets,
    toNat_ofOctets stored.octets⟩

/-- Five, stored with too many bits and a zero in front, is read and padded as the number it is. -/
theorem canonical_number_five :
    ofOctets [0, 5] = ofOctets [5] ∧
    Mpi.parse.parse ((ofOctets [0, 5]).encode ++ [0xFF]) = (.ok (ofOctets [5]), [0xFF]) ∧
    (∃ (bits : UInt16) (value : List UInt8),
      [0x00, 0x10, 0x00, 0x05, 0xFF] = bigEndian 2 bits.toNat ++ value ++ [0xFF] ∧
        bits ≤ 512 ∧ value.length = (bits.toNat + 7) / 8 ∧ (ofOctets [5]).toNat = ofBigEndian value) ∧
    (ofOctets [0, 5]).padded 2 = .ok ⟨[0, 5], rfl⟩ := by
  obtain ⟨-, -, hSame, hReads, hRead, -, hPadded⟩ := canonical_number
  have hFive : ofOctets [0, 5] = ofOctets [5] := (hSame [0, 5] [5]).mpr rfl
  refine ⟨hFive, ?_, (hRead [0x00, 0x10, 0x00, 0x05, 0xFF] (ofOctets [5]) [0xFF] rfl).1,
    hPadded 2 ⟨[0, 5], rfl⟩⟩
  rw [hFive]
  exact hReads (ofOctets [5]) (length_octets_le_64_iff.mp (show 1 ≤ 64 by decide)) [0xFF]

end PhraseKey.Mpi
