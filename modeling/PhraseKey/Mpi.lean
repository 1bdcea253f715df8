import PhraseKey.Parser

/-!
Multiprecision integers: a two octet bit count and the value, most significant octet first and
without leading zero octets. Values of a fixed size lose their leading zeros here and get them back
from `padded`.
-/

namespace PhraseKey

/-- A natural number as its octets, without leading zeros. Zero has no octets. -/
structure Mpi where
  octets : List UInt8
  noLeadingZero : octets.head? ≠ some 0
  deriving DecidableEq

namespace Mpi

/-- The largest bit count that is read. The largest value of a key is a point of 263 bits. -/
def maxBits : UInt16 := 512

/-- The number an octet string spells, leading zeros or not. -/
def ofOctets (octets : List UInt8) : Mpi where
  octets := octets.dropWhile (· == 0)
  noLeadingZero := by
    intro h
    have := List.head?_dropWhile_not (· == (0 : UInt8)) octets
    simp [h] at this

@[ext]
theorem ext {a b : Mpi} (h : a.octets = b.octets) : a = b := by
  cases a
  cases b
  cases h
  rfl

/-- Leading zeros do not count. -/
@[simp]
theorem ofOctets_cons_zero (octets : List UInt8) : ofOctets (0 :: octets) = ofOctets octets := by
  ext1
  simp [ofOctets]

@[simp]
theorem ofOctets_octets (mpi : Mpi) : ofOctets mpi.octets = mpi := by
  ext1
  obtain ⟨octets, noLeadingZero⟩ := mpi
  cases octets with
  | nil => rfl
  | cons first rest =>
    have : first ≠ 0 := by simpa using noLeadingZero
    simp [ofOctets, this]

/-- The natural number denoted. -/
def toNat (mpi : Mpi) : Nat :=
  ofBigEndian mpi.octets

/-- The bits of the first octet from its highest set bit on, and eight for every other octet. -/
def bitLength : List UInt8 → Nat
  | [] => 0
  | first :: rest =>
    (if first = 0 then 0 else first.toNat.log2 + 1) + 8 * rest.length

/-- The bit count and the value. The count is written modulo `2 ^ 16`. -/
def encode (mpi : Mpi) : List UInt8 :=
  bigEndian 2 (bitLength mpi.octets) ++ mpi.octets

def encodedLength (mpi : Mpi) : Nat :=
  2 + mpi.octets.length

@[simp]
theorem length_encode (mpi : Mpi) : mpi.encode.length = mpi.encodedLength := by
  simp [encode, encodedLength]

/-- The bit count is rounded up to whole octets. Leading zeros of the value are dropped. -/
def parse : Parser Mpi := do
  let bits ← Parser.u16 "mpi bit length"
  Parser.ensure (bits ≤ maxBits) (.oversizedMpi bits)
  let value ← Parser.take "mpi value" ((bits.toNat + 7) / 8)
  return ofOctets value

/-- The value in `n` octets, leading zeros restored. -/
def padded (mpi : Mpi) (n : Nat) : Except Error (Octets n) :=
  if h : mpi.octets.length ≤ n then
    .ok ⟨List.replicate (n - mpi.octets.length) 0 ++ mpi.octets, by simp; omega⟩
  else
    .error (.unfittingMpi mpi.octets.length n)

def text (mpi : Mpi) : String :=
  "Mpi(" ++ hex mpi.octets ++ ")"

end Mpi

/-- The octets of a list of numbers, one after another. -/
def encodeMpis (mpis : List Mpi) : List UInt8 :=
  mpis.flatMap Mpi.encode

def encodedMpisLength : List Mpi → Nat
  | [] => 0
  | mpi :: rest => mpi.encodedLength + encodedMpisLength rest

@[simp]
theorem length_encodeMpis (mpis : List Mpi) : (encodeMpis mpis).length = encodedMpisLength mpis :=
  length_flatMap_of_cons Mpi.length_encode rfl (fun _ _ => rfl) mpis

end PhraseKey
