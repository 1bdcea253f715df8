import Mathlib.Algebra.Group.Nat.Even
import PhraseKey.Octets

/-!
Numbers in a fixed number of octets. Writing a number in `n` octets and reading it back gives the number
modulo `256 ^ n`, and `n` octets spell no number from there on.
-/

namespace PhraseKey

theorem ofLittleEndian_littleEndian (n value : Nat) :
    ofLittleEndian (littleEndian n value) = value % 256 ^ n := by
  induction n generalizing value with
  | zero => simp [littleEndian, ofLittleEndian, Nat.mod_one]
  | succ n ih =>
    have step : ofLittleEndian (littleEndian (n + 1) value) =
        (UInt8.ofNat value).toNat + 256 * ofLittleEndian (littleEndian n (value / 256)) := rfl
    rw [step, ih, Nat.pow_succ', Nat.mod_mul, UInt8.toNat_ofNat']

theorem ofBigEndian_bigEndian (n value : Nat) :
    ofBigEndian (bigEndian n value) = value % 256 ^ n := by
  simp [ofBigEndian, bigEndian, ofLittleEndian_littleEndian]

/-- What does not fit into the octets is not written. -/
theorem bigEndian_mod (n value : Nat) : bigEndian n (value % 256 ^ n) = bigEndian n value := by
  have hOctets := bigEndian_ofBigEndian (bigEndian n value)
  rwa [length_bigEndian, ofBigEndian_bigEndian] at hOctets

/-- Numbers that fit are told apart by their octets. -/
theorem bigEndian_inj {n a b : Nat} (ha : a < 256 ^ n) (hb : b < 256 ^ n)
    (h : bigEndian n a = bigEndian n b) : a = b := by
  have hValue := congrArg ofBigEndian h
  rwa [ofBigEndian_bigEndian, ofBigEndian_bigEndian, Nat.mod_eq_of_lt ha,
    Nat.mod_eq_of_lt hb] at hValue

theorem ofLittleEndian_append (low high : List UInt8) :
    ofLittleEndian (low ++ high) = ofLittleEndian low + 256 ^ low.length * ofLittleEndian high := by
  induction low with
  | nil => simp [ofLittleEndian]
  | cons octet low ih =>
    have step (octets : List UInt8) :
        ofLittleEndian (octet :: octets) = octet.toNat + 256 * ofLittleEndian octets := rfl
    rw [List.cons_append, step, step, ih, List.length_cons, Nat.pow_succ', Nat.mul_add,
      Nat.mul_assoc, Nat.add_assoc]

/-- What stands in front counts more. -/
theorem ofBigEndian_append (front back : List UInt8) :
    ofBigEndian (front ++ back) = 256 ^ back.length * ofBigEndian front + ofBigEndian back := by
  rw [ofBigEndian, List.reverse_append, ofLittleEndian_append, List.length_reverse, Nat.add_comm]
  rfl

/-- The first octet counts most. -/
theorem ofBigEndian_cons (octet : UInt8) (octets : List UInt8) :
    ofBigEndian (octet :: octets) = 256 ^ octets.length * octet.toNat + ofBigEndian octets :=
  ofBigEndian_append [octet] octets

theorem ofLittleEndian_lt (octets : List UInt8) :
    ofLittleEndian octets < 256 ^ octets.length := by
  induction octets with
  | nil => simp [ofLittleEndian]
  | cons octet rest ih =>
    have step : ofLittleEndian (octet :: rest) = octet.toNat + 256 * ofLittleEndian rest := rfl
    have bound := octet.toNat_lt
    rw [step, List.length_cons, Nat.pow_succ']
    omega

theorem ofBigEndian_lt (octets : List UInt8) : ofBigEndian octets < 256 ^ octets.length := by
  simpa [ofBigEndian] using ofLittleEndian_lt octets.reverse

/-- The octets that are cut off are those that count least. -/
theorem ofBigEndian_take (octets : List UInt8) (n : Nat) :
    ofBigEndian (octets.take n) = ofBigEndian octets / 256 ^ (octets.length - n) := by
  have hLow := ofBigEndian_lt (octets.drop n)
  have hPositive : 0 < 256 ^ (octets.drop n).length := Nat.pow_pos (by decide)
  rw [← List.length_drop]
  calc
    ofBigEndian (octets.take n)
      = (256 ^ (octets.drop n).length * ofBigEndian (octets.take n) +
          ofBigEndian (octets.drop n)) / 256 ^ (octets.drop n).length := by
        rw [Nat.mul_add_div hPositive, Nat.div_eq_of_lt hLow, Nat.add_zero]
    _ = ofBigEndian octets / 256 ^ (octets.drop n).length := by
        rw [← ofBigEndian_append, List.take_append_drop]

end PhraseKey
