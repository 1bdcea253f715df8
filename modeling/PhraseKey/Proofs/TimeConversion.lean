import Mathlib.Algebra.Group.Int.Defs
import PhraseKey.Proofs.OctetNumbers
import PhraseKey.Timestamp

/-!
Which times have a timestamp, and which one. A timestamp stands for its whole second, so every time from
the epoch on and up to the last second that can be counted has exactly one. Later times do not have
earlier timestamps, nor smaller octets.
-/

namespace PhraseKey

/-- Octet strings of one length are in the order of the numbers they spell. -/
theorem lt_iff_ofBigEndian_lt {first second : List UInt8} (hLength : first.length = second.length) :
    first < second ↔ ofBigEndian first < ofBigEndian second := by
  induction first generalizing second with
  | nil =>
      obtain rfl : second = [] := List.length_eq_zero_iff.mp hLength.symm
      simp
  | cons octet first ih =>
      cases second with
      | nil => cases hLength
      | cons octet' second =>
          have hRest : first.length = second.length := Nat.succ.inj hLength
          have hLow := ofBigEndian_lt first
          have hLow' := ofBigEndian_lt second
          rw [List.cons_lt_cons_iff, ih hRest, ofBigEndian_cons, ofBigEndian_cons, hRest]
          rw [hRest] at hLow
          -- The first octets decide, unless they are the same: no rest makes up for one more.
          rcases Nat.lt_trichotomy octet.toNat octet'.toNat with hLess | hSame | hMore
          · have hStep := Nat.mul_le_mul_left (256 ^ second.length) (Nat.succ_le_of_lt hLess)
            rw [Nat.mul_succ] at hStep
            have hFirst : octet < octet' := UInt8.lt_iff_toNat_lt.mpr hLess
            simp only [hFirst, true_or, true_iff]
            omega
          · obtain rfl := UInt8.toNat_inj.mp hSame
            simp
          · have hStep := Nat.mul_le_mul_left (256 ^ second.length) (Nat.succ_le_of_lt hMore)
            rw [Nat.mul_succ] at hStep
            have hFirst : ¬ octet < octet' := fun h =>
              Nat.lt_asymm hMore (UInt8.lt_iff_toNat_lt.mp h)
            have hOther : octet ≠ octet' := fun h => Nat.ne_of_gt hMore (congrArg UInt8.toNat h)
            simp only [hFirst, hOther, false_and, or_self, false_iff]
            omega

namespace Timestamp

theorem le_iff_toNat_le {first second : Timestamp} :
    first ≤ second ↔ first.seconds.toNat ≤ second.seconds.toNat :=
  UInt32.le_iff_toNat_le

theorem eq_iff_toNat_eq {first second : Timestamp} :
    first = second ↔ first.seconds.toNat = second.seconds.toNat := by
  cases first
  cases second
  rw [mk.injEq, UInt32.toNat_inj]

/-- The time is in the second that the timestamp stands for. -/
def IsSecondOf (timestamp : Timestamp) (time : Int) : Prop :=
  timestamp.toNanoseconds ≤ time ∧ time < timestamp.toNanoseconds + nanosecondsPerSecond

/-- Nothing but the seconds of the whole time is in a timestamp, rounded down. -/
theorem isSecondOf_iff {timestamp : Timestamp} {time : Int} :
    timestamp.IsSecondOf time ↔ (timestamp.seconds.toNat : Int) = time / 1000000000 := by
  rw [IsSecondOf, toNanoseconds, nanosecondsPerSecond]
  omega

/-- A time is too early, or too late, or in a second that is counted. -/
theorem ofNanoseconds_cases (time : Int) :
    time < 0 ∧ ofNanoseconds time = .error .tooFarBack ∨
    2 ^ 32 * 1000000000 ≤ time ∧ ofNanoseconds time = .error .tooFarIntoTheFuture ∨
    ∃ timestamp : Timestamp, timestamp.IsSecondOf time ∧ ofNanoseconds time = .ok timestamp := by
  rw [ofNanoseconds]
  by_cases hBefore : time < 0
  · rw [if_pos hBefore]
    exact .inl ⟨hBefore, rfl⟩
  rw [if_neg hBefore]
  dsimp only
  by_cases hCounted : time.toNat / nanosecondsPerSecond < UInt32.size
  · have hSeconds : (UInt32.ofNat (time.toNat / nanosecondsPerSecond)).toNat =
        time.toNat / 1000000000 := by
      rw [UInt32.toNat_ofNat', Nat.mod_eq_of_lt hCounted, nanosecondsPerSecond]
    rw [if_pos hCounted]
    refine .inr (.inr ⟨_, ?_, rfl⟩)
    rw [isSecondOf_iff, hSeconds]
    omega
  · rw [if_neg hCounted]
    rw [nanosecondsPerSecond, UInt32.size] at hCounted
    exact .inr (.inl ⟨by omega, rfl⟩)

/-- No counted second is before the epoch or behind the last one. -/
theorem IsSecondOf.mem_range {timestamp : Timestamp} {time : Int} (h : timestamp.IsSecondOf time) :
    0 ≤ time ∧ time < 2 ^ 32 * 1000000000 := by
  have hBound := timestamp.seconds.toNat_lt_size
  rw [UInt32.size] at hBound
  rw [isSecondOf_iff] at h
  omega

/-- A time has the timestamp in whose second it is. -/
theorem ofNanoseconds_eq_ok_iff {time : Int} {timestamp : Timestamp} :
    ofNanoseconds time = .ok timestamp ↔ timestamp.IsSecondOf time := by
  rcases ofNanoseconds_cases time with ⟨hRange, hEq⟩ | ⟨hRange, hEq⟩ | ⟨found, hFound, hEq⟩
  · have hNot : ¬ timestamp.IsSecondOf time := fun h => by
      have hTime := h.mem_range
      omega
    simp [hEq, hNot]
  · have hNot : ¬ timestamp.IsSecondOf time := fun h => by
      have hTime := h.mem_range
      omega
    simp [hEq, hNot]
  · rw [hEq, Except.ok.injEq, eq_iff_toNat_eq]
    rw [isSecondOf_iff] at hFound ⊢
    omega

theorem ofNanoseconds_eq_tooFarBack_iff {time : Int} :
    ofNanoseconds time = .error .tooFarBack ↔ time < 0 := by
  rcases ofNanoseconds_cases time with ⟨hRange, hEq⟩ | ⟨hRange, hEq⟩ | ⟨found, hFound, hEq⟩
  · simpa [hEq] using hRange
  · simp [hEq]
    omega
  · simpa [hEq] using hFound.mem_range.1

theorem ofNanoseconds_eq_tooFarIntoTheFuture_iff {time : Int} :
    ofNanoseconds time = .error .tooFarIntoTheFuture ↔ 2 ^ 32 * 1000000000 ≤ time := by
  rcases ofNanoseconds_cases time with ⟨hRange, hEq⟩ | ⟨hRange, hEq⟩ | ⟨found, hFound, hEq⟩
  · simp [hEq]
    omega
  · simpa [hEq] using hRange
  · simpa [hEq] using hFound.mem_range.2

/-- What is neither too early nor too late has a timestamp. -/
theorem exists_ofNanoseconds_eq_ok_iff {time : Int} :
    (∃ timestamp, ofNanoseconds time = .ok timestamp) ↔ 0 ≤ time ∧ time < 2 ^ 32 * 1000000000 := by
  rcases ofNanoseconds_cases time with ⟨hRange, hEq⟩ | ⟨hRange, hEq⟩ | ⟨found, hFound, hEq⟩
  · simp [hEq]
    omega
  · simp [hEq]
    omega
  · simpa [hEq] using hFound.mem_range

/-- The start of the second is in it. -/
theorem ofNanoseconds_toNanoseconds (timestamp : Timestamp) :
    ofNanoseconds timestamp.toNanoseconds = .ok timestamp := by
  rw [ofNanoseconds_eq_ok_iff, IsSecondOf, nanosecondsPerSecond]
  omega

theorem le_of_ofNanoseconds {time later : Int} {first second : Timestamp} (hLe : time ≤ later)
    (hFirst : ofNanoseconds time = .ok first) (hSecond : ofNanoseconds later = .ok second) :
    first ≤ second := by
  rw [ofNanoseconds_eq_ok_iff, isSecondOf_iff] at hFirst hSecond
  rw [le_iff_toNat_le]
  omega

theorem ofBigEndian_encode (timestamp : Timestamp) :
    ofBigEndian timestamp.encode = timestamp.seconds.toNat := by
  rw [encode, ofBigEndian_bigEndian]
  exact Nat.mod_eq_of_lt timestamp.seconds.toNat_lt_size

theorem encode_lt_encode_iff {first second : Timestamp} :
    first.encode < second.encode ↔ first.seconds.toNat < second.seconds.toNat := by
  rw [lt_iff_ofBigEndian_lt (by simp), ofBigEndian_encode, ofBigEndian_encode]

theorem encode_le_encode_iff {first second : Timestamp} :
    first.encode ≤ second.encode ↔ first ≤ second := by
  rw [← List.not_lt, encode_lt_encode_iff, le_iff_toNat_le, Nat.not_lt]

theorem encode_inj {first second : Timestamp} :
    first.encode = second.encode ↔ first = second := by
  constructor
  · intro h
    rw [eq_iff_toNat_eq, ← ofBigEndian_encode, ← ofBigEndian_encode, h]
  · exact congrArg encode

/-- Times are converted exactly at both ends. A time in nanoseconds from the epoch, before it or after
it, has a timestamp exactly if it is not before the epoch and less than `2 ^ 32` seconds after it, and then
the timestamp counts the seconds, rounded down. Any time before the epoch is too far back, and any other
time is too far into the future. A timestamp comes back from the time it stands for, no time has an
earlier timestamp than a time before it, and the octets of timestamps are in lexicographic order exactly
as the timestamps are in theirs. -/
theorem conversion_exact :
    (∀ time : Int, (∃ timestamp, ofNanoseconds time = .ok timestamp) ↔
      0 ≤ time ∧ time < 2 ^ 32 * 1000000000) ∧
    (∀ (time : Int) (timestamp : Timestamp), ofNanoseconds time = .ok timestamp →
      (timestamp.seconds.toNat : Int) = time / 1000000000) ∧
    (∀ time : Int, ofNanoseconds time = .error .tooFarBack ↔ time < 0) ∧
    (∀ time : Int, ofNanoseconds time = .error .tooFarIntoTheFuture ↔ 2 ^ 32 * 1000000000 ≤ time) ∧
    (∀ timestamp : Timestamp, ofNanoseconds timestamp.toNanoseconds = .ok timestamp) ∧
    (∀ (time later : Int) (first second : Timestamp), time ≤ later →
      ofNanoseconds time = .ok first → ofNanoseconds later = .ok second → first ≤ second) ∧
    ∀ first second : Timestamp,
      (first.encode ≤ second.encode ↔ first ≤ second) ∧
      (first.encode = second.encode ↔ first = second) :=
  ⟨fun _ => exists_ofNanoseconds_eq_ok_iff,
    fun _ _ h => isSecondOf_iff.mp (ofNanoseconds_eq_ok_iff.mp h),
    fun _ => ofNanoseconds_eq_tooFarBack_iff, fun _ => ofNanoseconds_eq_tooFarIntoTheFuture_iff,
    ofNanoseconds_toNanoseconds, fun _ _ _ _ => le_of_ofNanoseconds,
    fun _ _ => ⟨encode_le_encode_iff, encode_inj⟩⟩

/-- One nanosecond decides before the epoch, and at the end of the last second. Just before a second is
over, its timestamp is still that of its start. -/
theorem conversion_exact_ends :
    ofNanoseconds (-1) = .error .tooFarBack ∧
    (∃ timestamp, ofNanoseconds 4294967295999999999 = .ok timestamp) ∧
    ofNanoseconds 4294967296000000000 = .error .tooFarIntoTheFuture ∧
    ofNanoseconds 255999999999 = .ok ⟨255⟩ ∧ ((255 : UInt32).toNat : Int) = 255999999999 / 1000000000 ∧
    ofNanoseconds 256000000000 = .ok ⟨256⟩ ∧ (⟨255⟩ : Timestamp) ≤ ⟨256⟩ ∧
    encode ⟨255⟩ ≤ encode ⟨256⟩ := by
  obtain ⟨hSucceeds, hSeconds, hBack, hFuture, -, hMonotone, hOrder⟩ := conversion_exact
  have hBefore : ofNanoseconds 255999999999 = .ok ⟨255⟩ := rfl
  have hBehind : ofNanoseconds 256000000000 = .ok ⟨256⟩ := rfl
  have hLe : (⟨255⟩ : Timestamp) ≤ ⟨256⟩ := hMonotone _ _ _ _ (by decide) hBefore hBehind
  exact ⟨(hBack _).mpr (by decide), (hSucceeds _).mpr (by decide), (hFuture _).mpr (by decide),
    hBefore, hSeconds _ _ hBefore, hBehind, hLe, (hOrder _ _).1.mpr hLe⟩

end Timestamp

end PhraseKey
