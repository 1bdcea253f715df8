import Mathlib.Data.Nat.Size
import PhraseKey.Mpi
import PhraseKey.Proofs.FieldReading

/-!
Integers read back from their stored form, and values of fixed size from integers. The bit count of an
integer without leading zeros says how many octets it has, and padding brings back exactly the leading
zeros that a value of fixed size lost.
-/

namespace PhraseKey.Mpi

/-- A nonzero octet has between one and eight bits. -/
theorem log2_octet_lt {octet : UInt8} (nonzero : octet ≠ 0) : octet.toNat.log2 < 8 := by
  have hNat : octet.toNat ≠ 0 := fun h => nonzero (UInt8.toNat_inj.mp h)
  exact (Nat.log2_lt hNat).mpr octet.toNat_lt

theorem bitLength_le (octets : List UInt8) : bitLength octets ≤ 8 * octets.length := by
  cases octets with
  | nil => simp [bitLength]
  | cons first rest =>
      rw [bitLength, List.length_cons]
      split
      · omega
      · next hFirst =>
          have hBits := log2_octet_lt hFirst
          omega

/-- The bit count of an integer is the number of its binary digits. -/
theorem bitLength_eq_size (mpi : Mpi) : bitLength mpi.octets = Nat.size mpi.toNat := by
  obtain ⟨octets, hHead⟩ := mpi
  cases octets with
  | nil => rfl
  | cons first rest =>
      have hFirst : first ≠ 0 := by simpa using hHead
      have hNat : first.toNat ≠ 0 := fun h => hFirst (UInt8.toNat_inj.mp h)
      have hRest : ofBigEndian rest < 2 ^ (8 * rest.length) := by
        rw [Nat.pow_mul]
        exact ofBigEndian_lt rest
      have hValue : toNat ⟨first :: rest, hHead⟩ =
          2 ^ (8 * rest.length) * first.toNat + ofBigEndian rest := by
        rw [Nat.pow_mul]
        exact ofBigEndian_cons first rest
      have hLower : 2 ^ first.toNat.log2 ≤ first.toNat := Nat.log2_self_le hNat
      have hUpper : first.toNat < 2 ^ (first.toNat.log2 + 1) := Nat.lt_log2_self
      rw [hValue, bitLength, if_neg hFirst]
      apply Nat.le_antisymm
      · rw [Nat.add_right_comm, Nat.add_one_le_iff, Nat.lt_size, Nat.pow_add, Nat.mul_comm]
        exact Nat.le_add_right_of_le (Nat.mul_le_mul_left _ hLower)
      · rw [Nat.size_le, Nat.pow_add, Nat.mul_comm (2 ^ (first.toNat.log2 + 1))]
        calc
          2 ^ (8 * rest.length) * first.toNat + ofBigEndian rest
            < 2 ^ (8 * rest.length) * (first.toNat + 1) := by
              rw [Nat.mul_add_one]
              exact Nat.add_lt_add_left hRest _
          _ ≤ 2 ^ (8 * rest.length) * 2 ^ (first.toNat.log2 + 1) := Nat.mul_le_mul_left _ hUpper

/-- The bit count rounded up to octets is the number of octets. -/
theorem octetCount_bitLength (mpi : Mpi) : (bitLength mpi.octets + 7) / 8 = mpi.octets.length := by
  obtain ⟨octets, hHead⟩ := mpi
  cases octets with
  | nil => simp [bitLength]
  | cons first rest =>
      have hFirst : first ≠ 0 := by simpa using hHead
      have hBits := log2_octet_lt hFirst
      simp only [bitLength, hFirst, if_false, List.length_cons]
      omega

/-- The number of zeros that an octet string loses as an integer. -/
def lostZeros (octets : List UInt8) : Nat :=
  (octets.takeWhile (· == 0)).length

theorem lostZeros_add_length (octets : List UInt8) :
    lostZeros octets + (ofOctets octets).octets.length = octets.length := by
  rw [lostZeros, ofOctets, ← List.length_append, List.takeWhile_append_dropWhile]

theorem length_ofOctets_le (octets : List UInt8) :
    (ofOctets octets).octets.length ≤ octets.length := by
  have hLength := lostZeros_add_length octets
  omega

/-- Integers of at most 64 octets are read back. -/
theorem reads_encode (mpi : Mpi) (small : mpi.octets.length ≤ 64) :
    Mpi.parse.Reads mpi.encode mpi := by
  have hBits := bitLength_le mpi.octets
  have hCount := octetCount_bitLength mpi
  have hNat : (UInt16.ofNat (bitLength mpi.octets)).toNat = bitLength mpi.octets := by
    rw [UInt16.toNat_ofNat']
    omega
  have hFits : UInt16.ofNat (bitLength mpi.octets) ≤ maxBits := by
    rw [UInt16.le_iff_toNat_le, hNat]
    change _ ≤ 512
    omega
  have hValue : (Parser.take "mpi value" (((UInt16.ofNat (bitLength mpi.octets)).toNat + 7) / 8)).Reads
      mpi.octets mpi.octets := Parser.reads_take _ (by rw [hNat, hCount])
  have hRead := hValue.map ofOctets
  rw [ofOctets_octets] at hRead
  exact (Parser.reads_u16 "mpi bit length" (bitLength mpi.octets)).bind (.of_ensure hFits hRead)

/-- What an octet string loses as an integer are zeros at its front, as many as make up its length. -/
theorem replicate_append_ofOctets (octets : List UInt8) :
    List.replicate (octets.length - (ofOctets octets).octets.length) 0 ++ (ofOctets octets).octets =
      octets := by
  have hZeros : octets.takeWhile (· == 0) = List.replicate (lostZeros octets) 0 := by
    apply List.eq_replicate_of_mem
    intro octet hMem
    simpa using List.all_eq_true.mp List.all_takeWhile octet hMem
  have hCount : octets.length - (ofOctets octets).octets.length = lostZeros octets := by
    rw [← lostZeros_add_length octets, Nat.add_sub_cancel]
  calc
    _ = octets.takeWhile (· == 0) ++ octets.dropWhile (· == 0) := by rw [hCount, ← hZeros, ofOctets]
    _ = octets := List.takeWhile_append_dropWhile

/-- A value of fixed size comes back from its integer. -/
theorem padded_ofOctets {n : Nat} (octets : Octets n) :
    (ofOctets octets.toList).padded n = .ok octets := by
  have hLength := length_ofOctets_le octets.toList
  rw [octets.length_toList] at hLength
  have hZeros := replicate_append_ofOctets octets.toList
  rw [octets.length_toList] at hZeros
  simp only [padded, hLength, dite_true]
  congr 1
  exact Octets.ext hZeros

/-- An integer in its only canonical form, of any size that the bit count can say: the count is that of
its bits, and no octet in front is zero. -/
def parseCanonical : Parser Mpi := do
  let bits ← Parser.u16 "mpi bit length"
  let value ← Parser.take "mpi value" ((bits.toNat + 7) / 8)
  Parser.ensure (bitLength value = bits.toNat)
    (.unexpectedField "mpi bit length" (bigEndian 2 (bitLength value)) (bigEndian 2 bits.toNat))
  return ofOctets value

/-- Integers whose bit count does not wrap are read back. -/
theorem reads_encode_canonical (mpi : Mpi) (fits : mpi.octets.length < 8192) :
    Mpi.parseCanonical.Reads mpi.encode mpi := by
  have hBits := bitLength_le mpi.octets
  have hCount := octetCount_bitLength mpi
  have hNat : (UInt16.ofNat (bitLength mpi.octets)).toNat = bitLength mpi.octets := by
    rw [UInt16.toNat_ofNat']
    omega
  have hValue : (Parser.take "mpi value" (((UInt16.ofNat (bitLength mpi.octets)).toNat + 7) / 8)).Reads
      mpi.octets mpi.octets := Parser.reads_take _ (by rw [hNat, hCount])
  have hRead : (pure (ofOctets mpi.octets) : Parser Mpi).Reads [] mpi := by
    rw [ofOctets_octets]
    exact Parser.reads_pure mpi
  exact (Parser.reads_u16 "mpi bit length" (bitLength mpi.octets)).bind
    (hValue.last (.of_ensure hNat.symm hRead))

end PhraseKey.Mpi
