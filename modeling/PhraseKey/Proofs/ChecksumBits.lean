import Mathlib.Logic.Function.Iterate
import PhraseKey.Armor.Crc24

/-!
The checksum bit by bit. The register takes up the bits of the data one after another, most significant
first. It is linear in them: the registers for two strings of the same length differ by what the register
makes of their difference. Shifting, which is multiplication by `x`, never takes a register that is not
zero to zero, and up to 24 bits fill the register without an overlap.
-/

namespace PhraseKey

/-- The bits of an octet, most significant first. -/
def octetBits (octet : UInt8) : List Bool :=
  (List.range 8).map octet.toBitVec.getMsbD

/-- The bits of an octet string, most significant first. -/
def bits (octets : List UInt8) : List Bool :=
  octets.flatMap octetBits

@[simp]
theorem bits_cons (octet : UInt8) (octets : List UInt8) :
    bits (octet :: octets) = octetBits octet ++ bits octets := rfl

@[simp]
theorem length_octetBits (octet : UInt8) : (octetBits octet).length = 8 := rfl

theorem length_bits (octets : List UInt8) : (bits octets).length = 8 * octets.length := by
  induction octets with
  | nil => rfl
  | cons octet octets ih =>
      rw [bits_cons, List.length_append, length_octetBits, ih, List.length_cons]
      omega

theorem octetBits_injective : Function.Injective octetBits := by
  intro octet octet' h
  have hBits := List.map_inj_left.mp h
  apply UInt8.toBitVec_inj.mp
  exact BitVec.eq_of_getMsbD_eq fun i hi => hBits i (List.mem_range.mpr hi)

/-- Octet strings are told apart by their bits. -/
theorem bits_injective : Function.Injective bits := by
  intro octets octets' h
  induction octets generalizing octets' with
  | nil =>
      cases octets' with
      | nil => rfl
      | cons octet' octets' => cases h
  | cons octet octets ih =>
      cases octets' with
      | nil => cases h
      | cons octet' octets' =>
          obtain ⟨hFirst, hRest⟩ := List.append_inj h rfl
          rw [octetBits_injective hFirst, ih hRest]

namespace Crc24

/-- What is added to the register when a bit leaves it at the top. -/
def feedback (bit : Bool) : BitVec 24 :=
  if bit then polynomial else 0

theorem feedback_xor (a b : Bool) : feedback (a ^^ b) = feedback a ^^^ feedback b := by
  cases a <;> cases b <;> decide

theorem shift_eq (register : BitVec 24) : shift register = register <<< 1 ^^^ feedback register.msb := by
  cases hTop : register.msb <;> simp [shift, feedback, hTop]

theorem shift_xor (a b : BitVec 24) : shift (a ^^^ b) = shift a ^^^ shift b := by
  simp only [shift_eq, BitVec.msb_xor, feedback_xor, BitVec.shiftLeft_xor_distrib]
  ac_rfl

/-- The constant term of the polynomial is not zero, so the lowest bit says what left at the top. -/
theorem getLsbD_shift_zero (register : BitVec 24) : (shift register).getLsbD 0 = register.msb := by
  cases hTop : register.msb <;> simp [shift, hTop, polynomial]

/-- Nothing is lost by shifting. -/
theorem shift_eq_zero_iff {register : BitVec 24} : shift register = 0 ↔ register = 0 := by
  constructor
  · intro h
    have hTop : register.msb = false := by
      rw [← getLsbD_shift_zero, h]
      rfl
    have hShift : register <<< 1 = 0 := by
      simpa [shift, hTop] using h
    apply BitVec.eq_of_getMsbD_eq
    intro i hi
    cases i with
    | zero => simpa [BitVec.msb_eq_getMsbD_zero] using hTop
    | succ i =>
        have hBit := congrArg (BitVec.getMsbD · i) hShift
        simpa [Nat.lt_of_succ_lt hi, Nat.add_comm] using hBit
  · rintro rfl
    rfl

theorem iterate_shift_eq_zero_iff {n : Nat} {register : BitVec 24} :
    shift^[n] register = 0 ↔ register = 0 := by
  induction n with
  | zero => rfl
  | succ n ih => rw [Function.iterate_succ_apply', shift_eq_zero_iff, ih]

/-- A register shifted down before it is shifted up, if its lowest bit is not needed. -/
theorem shift_ushiftRight {register : BitVec 24} (hLow : register.getMsbD 23 = false) :
    shift (register >>> 1) = register := by
  have hTop : (register >>> 1).msb = false := by
    simp [BitVec.msb_eq_getMsbD_zero]
  apply BitVec.eq_of_getMsbD_eq
  intro i hi
  rw [shift, if_neg (by simp [hTop])]
  by_cases hLast : i = 23
  · subst hLast
    simp [hLow]
  · have hInside : i + 1 < 24 := by omega
    simp [hInside]

/-- A bit in the place of the highest one. -/
def top (bit : Bool) : BitVec 24 :=
  if bit then 0x800000 else 0

theorem getMsbD_top (bit : Bool) {i : Nat} (hi : i < 24) :
    (top bit).getMsbD i = (decide (i = 0) && bit) := by
  have hAll : ∀ i < 24, ∀ bit, (top bit).getMsbD i = (decide (i = 0) && bit) := by decide
  exact hAll i hi bit

theorem top_xor (a b : Bool) : top (a ^^ b) = top a ^^^ top b := by
  cases a <;> cases b <;> decide

/-- The register after one more bit. -/
def feed (register : BitVec 24) (bit : Bool) : BitVec 24 :=
  shift (register ^^^ top bit)

theorem feed_xor (a b : BitVec 24) (x y : Bool) :
    feed (a ^^^ b) (x ^^ y) = feed a x ^^^ feed b y := by
  rw [feed, feed, feed, ← shift_xor, top_xor]
  exact congrArg shift (by ac_rfl)

theorem feed_false (register : BitVec 24) : feed register false = shift register := by
  simp [feed, top]

/-- Bits from the top of a register down. Those for which there is no room are lost. -/
def load : List Bool → BitVec 24
  | [] => 0
  | bit :: bits => top bit ^^^ load bits >>> 1

theorem getMsbD_load (bits : List Bool) {i : Nat} (hi : i < 24) :
    (load bits).getMsbD i = bits.getD i false := by
  induction bits generalizing i with
  | nil => simp [load]
  | cons bit bits ih =>
      rw [load, BitVec.getMsbD_xor, getMsbD_top bit hi, BitVec.getMsbD_ushiftRight]
      cases i with
      | zero => simp
      | succ i => simp [hi, ih (Nat.lt_of_succ_lt hi)]

/-- Bits that have room in a register can be added to it at once. -/
theorem foldl_feed_eq {bits : List Bool} (hLength : bits.length ≤ 24) (register : BitVec 24) :
    bits.foldl feed register = shift^[bits.length] (register ^^^ load bits) := by
  induction bits generalizing register with
  | nil => simp [load]
  | cons bit bits ih =>
      rw [List.length_cons] at hLength
      have hLow : (load bits).getMsbD 23 = false := by
        rw [getMsbD_load bits (by omega)]
        simp [List.getElem?_eq_none (show bits.length ≤ 23 by omega)]
      calc
        (bit :: bits).foldl feed register
          = shift^[bits.length] (shift (register ^^^ top bit) ^^^ load bits) := ih (by omega) _
        _ = shift^[bits.length] (shift (register ^^^ top bit ^^^ load bits >>> 1)) := by
          rw [shift_xor _ (load bits >>> 1), shift_ushiftRight hLow]
        _ = shift^[(bit :: bits).length] (register ^^^ load (bit :: bits)) := by
          rw [List.length_cons, Function.iterate_succ_apply, load, BitVec.xor_assoc]

/-- Bits that are taken up at once leave no register that is zero, unless none of them is set. -/
theorem load_eq_zero {bits : List Bool} (hLength : bits.length ≤ 24) (h : load bits = 0) :
    ∀ bit ∈ bits, bit = false := by
  intro bit hBit
  obtain ⟨i, hi, rfl⟩ := List.mem_iff_getElem.mp hBit
  have hLoad := getMsbD_load bits (show i < 24 by omega)
  rw [h] at hLoad
  simpa [hi] using hLoad.symm

theorem foldl_feed_false {bits : List Bool} (hBits : ∀ bit ∈ bits, bit = false)
    (register : BitVec 24) : bits.foldl feed register = shift^[bits.length] register := by
  induction bits generalizing register with
  | nil => rfl
  | cons bit bits ih =>
      obtain ⟨rfl, hRest⟩ := List.forall_mem_cons.mp hBits
      rw [List.foldl_cons, feed_false, ih hRest, List.length_cons, Function.iterate_succ_apply]

/-- The difference of two registers is that of the bits they were fed. -/
theorem foldl_feed_xor {first second : List Bool} (hLength : first.length = second.length)
    (a b : BitVec 24) :
    first.foldl feed a ^^^ second.foldl feed b =
      (List.zipWith Bool.xor first second).foldl feed (a ^^^ b) := by
  induction first generalizing second a b with
  | nil =>
      cases second with
      | nil => rfl
      | cons bit second => cases hLength
  | cons bit first ih =>
      cases second with
      | nil => cases hLength
      | cons bit' second =>
          rw [List.foldl_cons, List.foldl_cons, ih (Nat.succ.inj hLength), ← feed_xor]
          rfl

theorem load_octetBits (octet : UInt8) :
    load (octetBits octet) = octet.toBitVec.setWidth 24 <<< 16 := by
  have hAll : ∀ b : BitVec 8, load (octetBits ⟨b⟩) = b.setWidth 24 <<< 16 := by decide
  exact hAll octet.toBitVec

theorem update_eq (register : BitVec 24) (octet : UInt8) :
    update register octet = (octetBits octet).foldl feed register := by
  rw [foldl_feed_eq (Nat.le_of_ble_eq_true rfl), load_octetBits]
  rfl

/-- The checksum takes up the data bit by bit. -/
theorem foldl_update (data : List UInt8) (register : BitVec 24) :
    data.foldl update register = (bits data).foldl feed register := by
  induction data generalizing register with
  | nil => rfl
  | cons octet data ih => rw [List.foldl_cons, ih, update_eq, bits_cons, List.foldl_append]

end Crc24

end PhraseKey
