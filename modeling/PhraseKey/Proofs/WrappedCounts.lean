import PhraseKey.Proofs.IntegerNumbers

/-!
Integers of more than 512 bits. Their bit count is written modulo `2 ^ 16`, and nothing else says how
long they are. So a reader refuses them by what is left of the count, and takes the highest bits for
the whole number if that is 512 or less.
-/

namespace PhraseKey.Mpi

/-- The bit count as it is written. -/
def writtenCount (mpi : Mpi) : Nat :=
  Nat.size mpi.toNat % 65536

/-- The number of octets that the written bit count calls for. -/
def writtenLength (mpi : Mpi) : Nat :=
  (mpi.writtenCount + 7) / 8

theorem toNat_ofNat_bitLength (mpi : Mpi) :
    (UInt16.ofNat (bitLength mpi.octets)).toNat = mpi.writtenCount := by
  rw [UInt16.toNat_ofNat', bitLength_eq_size]
  rfl

/-- What a wrapped count leaves out are blocks of 8192 octets. -/
theorem length_octets_eq (mpi : Mpi) :
    mpi.octets.length = mpi.writtenLength + 8192 * (Nat.size mpi.toNat / 65536) := by
  have hCount := octetCount_bitLength mpi
  rw [bitLength_eq_size] at hCount
  rw [writtenLength, writtenCount]
  omega

/-- The integer that a reader finds if it believes the written count. -/
def believed (mpi : Mpi) : StoredMpi where
  bits := UInt16.ofNat (bitLength mpi.octets)
  octets := mpi.octets.take mpi.writtenLength
  length_octets := by
    have hLength := mpi.length_octets_eq
    rw [List.length_take_of_le (by omega), toNat_ofNat_bitLength, writtenLength]

/-- It stands at the front of what is written. -/
theorem encode_eq_append (mpi : Mpi) :
    mpi.encode = mpi.believed.encode ++ mpi.octets.drop mpi.writtenLength := by
  have hCount : bigEndian 2 mpi.believed.bits.toNat = bigEndian 2 (bitLength mpi.octets) := by
    rw [believed, UInt16.toNat_ofNat']
    exact bigEndian_mod 2 (bitLength mpi.octets)
  rw [StoredMpi.encode, hCount, List.append_assoc, believed, List.take_append_drop, encode]

/-- It has the highest bits of the number, as many as the written count says. -/
theorem toNat_value_believed (mpi : Mpi) :
    mpi.believed.value.toNat = mpi.toNat / 2 ^ (65536 * (Nat.size mpi.toNat / 65536)) := by
  have hCut : mpi.octets.length - mpi.writtenLength = 8192 * (Nat.size mpi.toNat / 65536) := by
    rw [length_octets_eq]
    omega
  have hPower : 256 ^ (8192 * (Nat.size mpi.toNat / 65536)) =
      2 ^ (65536 * (Nat.size mpi.toNat / 65536)) := by
    rw [show 65536 = 8 * 8192 from rfl, Nat.mul_assoc, Nat.pow_mul 2 8]
  rw [StoredMpi.value, believed, toNat_ofOctets, ofBigEndian_take, hCut, hPower, toNat]

/-- A written count of at most 512 is believed. -/
theorem parse_encode_of_le {mpi : Mpi} (small : mpi.writtenCount ≤ 512) (rest : List UInt8) :
    Mpi.parse.parse (mpi.encode ++ rest) =
      (.ok mpi.believed.value, mpi.octets.drop mpi.writtenLength ++ rest) := by
  have hLimit : mpi.believed.bits ≤ maxBits := by
    rw [UInt16.le_iff_toNat_le, believed, toNat_ofNat_bitLength]
    exact small
  rw [encode_eq_append, List.append_assoc]
  exact StoredMpi.reads_encode mpi.believed hLimit _

/-- A larger one is refused, when nothing but the count has been taken off. -/
theorem parse_encode_of_lt {mpi : Mpi} (large : 512 < mpi.writtenCount) (rest : List UInt8) :
    Mpi.parse.parse (mpi.encode ++ rest) =
      (.error (.oversizedMpi (UInt16.ofNat (bitLength mpi.octets))), mpi.octets ++ rest) := by
  have hLimit : ¬ UInt16.ofNat (bitLength mpi.octets) ≤ maxBits := by
    rw [UInt16.le_iff_toNat_le, toNat_ofNat_bitLength]
    exact Nat.not_le.mpr large
  have hCount := Parser.reads_u16 "mpi bit length" (bitLength mpi.octets) (mpi.octets ++ rest)
  rw [encode, List.append_assoc, Mpi.parse, Parser.parse_bind_of_ok hCount, Parser.ensure,
    if_neg hLimit]
  rfl

/-- Large numbers have more than 64 octets. -/
theorem large_iff {mpi : Mpi} : 2 ^ 512 ≤ mpi.toNat ↔ 64 < mpi.octets.length := by
  rw [← Nat.not_lt, ← length_octets_le_64_iff, Nat.not_le]

/-- No bit count of a large number that fits into 16 bits is taken for another one. -/
theorem lt_writtenCount {mpi : Mpi} (large : 2 ^ 512 ≤ mpi.toNat) (fits : mpi.toNat < 2 ^ 65535) :
    512 < mpi.writtenCount := by
  have hLength := large_iff.mp large
  have hCount := octetCount_bitLength mpi
  have hFits := Nat.size_le.mpr fits
  rw [bitLength_eq_size] at hCount
  rw [writtenCount]
  omega

/-- What is read is always small. -/
theorem ne_of_parse {octets left : List UInt8} {mpi read : Mpi} (large : 2 ^ 512 ≤ mpi.toNat)
    (h : Mpi.parse.parse octets = (.ok read, left)) : read ≠ mpi := by
  rintro rfl
  exact absurd (length_octets_of_parse h) (Nat.not_le.mpr (large_iff.mp large))

/-- What is read back for a number of `2 ^ 512` or more depends on its bit count modulo `2 ^ 16`. Above
512 it is refused, as an error of the format. That is so for all numbers below `2 ^ 65535`. Otherwise
another integer is read, which has that many of the highest bits of the number. -/
theorem parse_encode_large {raw : List UInt8} (large : 2 ^ 512 ≤ ofBigEndian raw) :
    (512 < Nat.size (ofBigEndian raw) % 65536 → ∀ rest, ∃ error,
      Mpi.parse.parse ((ofOctets raw).encode ++ rest) =
        (.error error, (ofOctets raw).octets ++ rest) ∧ error.kind = .format) ∧
    (ofBigEndian raw < 2 ^ 65535 → 512 < Nat.size (ofBigEndian raw) % 65536) ∧
    (Nat.size (ofBigEndian raw) % 65536 ≤ 512 → ∃ read left, read ≠ ofOctets raw ∧
      read.toNat = ofBigEndian raw / 2 ^ (65536 * (Nat.size (ofBigEndian raw) / 65536)) ∧
      ∀ rest, Mpi.parse.parse ((ofOctets raw).encode ++ rest) = (.ok read, left ++ rest)) := by
  rw [← toNat_ofOctets] at large ⊢
  refine ⟨fun hCount rest => ⟨_, parse_encode_of_lt hCount rest, rfl⟩, lt_writtenCount large,
    fun hCount => ?_⟩
  have hParse := parse_encode_of_le hCount
  exact ⟨_, _, ne_of_parse large (hParse []), toNat_value_believed _, hParse⟩

/-- The octets of a power of 256. -/
def powerOctets (n : Nat) : List UInt8 :=
  1 :: List.replicate n 0

theorem ofBigEndian_powerOctets (n : Nat) : ofBigEndian (powerOctets n) = 2 ^ (8 * n) := by
  have hZeros : ofBigEndian (List.replicate n 0) = 0 := by
    rw [← toNat_ofOctets, ← List.append_nil (List.replicate n 0), ofOctets_replicate_append]
    rfl
  rw [powerOctets, ofBigEndian_cons, hZeros, List.length_replicate, Nat.pow_mul]
  exact Nat.mul_one _

theorem octets_ofOctets_powerOctets (n : Nat) : (ofOctets (powerOctets n)).octets = powerOctets n :=
  octets_ofOctets (show (some 1 : Option UInt8) ≠ some 0 by decide)

theorem le_ofBigEndian_powerOctets {n : Nat} (h : 64 ≤ n) :
    2 ^ 512 ≤ ofBigEndian (powerOctets n) := by
  rw [← toNat_ofOctets, large_iff, octets_ofOctets_powerOctets, powerOctets, List.length_cons,
    List.length_replicate]
  omega

/-- A number of 65537 bits is written with a count of one, and read back as one. -/
theorem parse_encode_wrapped :
    2 ^ 512 ≤ ofBigEndian (powerOctets 8192) ∧
      Mpi.parse.parse (ofOctets (powerOctets 8192)).encode =
        (.ok (ofOctets [1]), List.replicate 8192 0) ∧
      ofOctets [1] ≠ ofOctets (powerOctets 8192) := by
  have hCount : bitLength (powerOctets 8192) = 65537 := by
    rw [powerOctets, bitLength, List.length_replicate]
    rfl
  have hOne : (ofOctets [1]).encode = bigEndian 2 65537 ++ [1] := by decide
  have hEncode : (ofOctets (powerOctets 8192)).encode =
      (ofOctets [1]).encode ++ List.replicate 8192 0 := by
    rw [encode, octets_ofOctets_powerOctets, hCount, hOne, List.append_assoc,
      List.singleton_append, powerOctets]
  have hParse : Mpi.parse.parse (ofOctets (powerOctets 8192)).encode =
      (.ok (ofOctets [1]), List.replicate 8192 0) := by
    rw [hEncode]
    exact reads_encode (ofOctets [1]) (show 1 ≤ 64 by decide) _
  have hLarge := le_ofBigEndian_powerOctets (show 64 ≤ 8192 by decide)
  refine ⟨hLarge, hParse, ne_of_parse ?_ hParse⟩
  rwa [toNat_ofOctets]

/-- The smallest number that is refused, and one that is read back as one. -/
theorem parse_encode_large_powers :
    2 ^ 512 ≤ ofBigEndian (powerOctets 64) ∧ 2 ^ 512 ≤ ofBigEndian (powerOctets 8192) ∧
    (∃ error, Mpi.parse.parse ((ofOctets (powerOctets 64)).encode ++ [0xFF]) =
      (.error error, (ofOctets (powerOctets 64)).octets ++ [0xFF]) ∧ error.kind = .format) ∧
    ∃ read left, read ≠ ofOctets (powerOctets 8192) ∧ read.toNat = 1 ∧
      Mpi.parse.parse ((ofOctets (powerOctets 8192)).encode ++ [0xFF]) =
        (.ok read, left ++ [0xFF]) := by
  have hSize (n : Nat) : Nat.size (ofBigEndian (powerOctets n)) = 8 * n + 1 := by
    rw [ofBigEndian_powerOctets, Nat.size_pow]
  have hSmaller := le_ofBigEndian_powerOctets (show 64 ≤ 64 by decide)
  have hLarger := le_ofBigEndian_powerOctets (show 64 ≤ 8192 by decide)
  obtain ⟨read, left, hOther, hValue, hRead⟩ := (parse_encode_large hLarger).2.2 (by rw [hSize]; decide)
  refine ⟨hSmaller, hLarger, (parse_encode_large hSmaller).1 (by rw [hSize]; decide) [0xFF],
    read, left, hOther, ?_, hRead [0xFF]⟩
  have hBlock : 65536 * ((8 * 8192 + 1) / 65536) = 8 * 8192 := by decide
  rw [hValue, hSize, hBlock, ofBigEndian_powerOctets, Nat.div_self (Nat.two_pow_pos _)]

end PhraseKey.Mpi
