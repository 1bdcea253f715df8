import PhraseKey.Octets

/-!
The field with `2 ^ 255 - 19` elements, and the clamping that makes any 32 octets a usable scalar.
-/

namespace PhraseKey.Curve25519

def prime : Nat := (1 <<< 255) - 19

instance : @NeZero Nat ⟨0⟩ prime := ⟨by decide⟩

abbrev FieldElement := Fin prime

namespace FieldElement

/-- Square and multiply over the lowest `bits` bits of the exponent. -/
def power (x : FieldElement) (bits exponent : Nat) : FieldElement :=
  match bits with
  | 0 => 1
  | bits + 1 =>
    let half := power x bits (exponent / 2)
    if exponent % 2 = 1 then half * half * x else half * half

/-- The inverse by the little theorem, and zero for zero. -/
def inverse (x : FieldElement) : FieldElement :=
  power x 255 (prime - 2)

end FieldElement

/-- The lowest three bits cleared. -/
def clampFirst (octet : UInt8) : UInt8 := octet &&& 0xF8

/-- The highest bit cleared and the one below it set. -/
def clampLast (octet : UInt8) : UInt8 := octet &&& 0x7F ||| 0x40

/-- A scalar, least significant octet first, as a multiple of eight with its highest bit at a fixed
place. -/
def clamp (scalar : Octets 32) : Octets 32 :=
  ⟨(scalar.toList.modify 0 clampFirst).modify 31 clampLast, by simp⟩

@[simp]
theorem clampFirst_clampFirst (octet : UInt8) :
    clampFirst (clampFirst octet) = clampFirst octet := by
  simp [clampFirst, UInt8.and_assoc]

@[simp]
theorem clampLast_clampLast (octet : UInt8) : clampLast (clampLast octet) = clampLast octet := by
  have h : ∀ b : BitVec 8, (b &&& 0x7F ||| 0x40) &&& 0x7F ||| 0x40 = b &&& 0x7F ||| 0x40 := by
    decide
  exact UInt8.toBitVec_inj.mp (h octet.toBitVec)

/-- Clamping forgets the bits it fixes. -/
theorem clamp_clamp (scalar : Octets 32) : clamp (clamp scalar) = clamp scalar := by
  ext1
  apply List.ext_getElem
  · simp [clamp]
  · intro i h₁ h₂
    simp only [clamp, List.getElem_modify]
    by_cases first : 0 = i
    · simp [first.symm]
    · by_cases last : 31 = i <;> simp [first, last]

end PhraseKey.Curve25519
