import PhraseKey.Seed

/-!
What a seed costs. The difficulty multiplies both costs, neither product is ever wrapped around, and a
seed depends on the costs and the difficulty through the products alone. Whatever else keeps a seed from
being derived is a fault of the configuration too.
-/

namespace PhraseKey

namespace Argon2

/-- A cost, a passphrase and a salt have this fault. -/
def Fault.Holds (cost : Cost) (passphrase salt : List UInt8) : Fault → Prop
  | memoryTooSmall => cost.memory.toNat < 8
  | tooFewPasses => cost.passes.toNat < 1
  | passphraseTooLong => UInt32.size ≤ passphrase.length
  | saltTooShort => salt.length < 8
  | saltTooLong => UInt32.size ≤ salt.length

/-- A fault in front of other checks is reported, or what they report is. -/
theorem cases_of_refused_eq_error {refused : Prop} [Decidable refused] {fault found : Fault}
    {rest : Except Fault Unit} (h : (if refused then .error fault else rest) = .error found) :
    refused ∧ found = fault ∨ rest = .error found := by
  split at h
  · next hRefused => exact .inl ⟨hRefused, (Except.error.inj h).symm⟩
  · exact .inr h

/-- A fault that is reported is there. -/
theorem holds_of_check_eq_error {cost : Cost} {passphrase salt : List UInt8} {fault : Fault}
    (h : check cost passphrase salt = .error fault) : fault.Holds cost passphrase salt := by
  rw [check] at h
  rcases cases_of_refused_eq_error h with ⟨hMemory, rfl⟩ | h
  · exact UInt32.lt_iff_toNat_lt.mp hMemory
  rcases cases_of_refused_eq_error h with ⟨hPasses, rfl⟩ | h
  · exact UInt32.lt_iff_toNat_lt.mp hPasses
  rcases cases_of_refused_eq_error h with ⟨hPassphrase, rfl⟩ | h
  · exact hPassphrase
  rcases cases_of_refused_eq_error h with ⟨hShort, rfl⟩ | h
  · exact hShort
  rcases cases_of_refused_eq_error h with ⟨hLong, rfl⟩ | h
  · exact hLong
  cases h

theorem check_eq_ok_iff {cost : Cost} {passphrase salt : List UInt8} :
    check cost passphrase salt = .ok () ↔
      8 ≤ cost.memory.toNat ∧ 1 ≤ cost.passes.toNat ∧ passphrase.length < UInt32.size ∧
        8 ≤ salt.length ∧ salt.length < UInt32.size := by
  have hMemory : cost.memory < 8 ↔ cost.memory.toNat < 8 := UInt32.lt_iff_toNat_lt
  have hPasses : cost.passes < 1 ↔ cost.passes.toNat < 1 := UInt32.lt_iff_toNat_lt
  have hLimit : maxInputLength + 1 = UInt32.size := rfl
  rw [check]
  simp only [hMemory, hPasses]
  grind

/-- Nothing fails once the cost and the inputs are checked. -/
theorem derive_eq (cost : Cost) (passphrase salt : List UInt8) :
    derive cost passphrase salt =
      (check cost passphrase salt).map fun _ => output cost passphrase salt := by
  rw [derive]
  cases check cost passphrase salt with
  | error fault => rfl
  | ok => rfl

namespace Cost

/-- Scaled costs are the products as whole numbers. -/
theorem scale?_eq_some_iff {cost scaled : Cost} {difficulty : UInt32} :
    cost.scale? difficulty = some scaled ↔
      scaled.passes.toNat = cost.passes.toNat * difficulty.toNat ∧
        scaled.memory.toNat = cost.memory.toNat * difficulty.toNat := by
  rw [scale?]
  constructor
  · intro h
    split at h
    · next hSmall =>
        cases h
        simp only [UInt32.toNat_ofNat']
        exact ⟨Nat.mod_eq_of_lt hSmall.1, Nat.mod_eq_of_lt hSmall.2⟩
    · cases h
  · rintro ⟨hPasses, hMemory⟩
    rw [← hPasses, ← hMemory, if_pos ⟨scaled.passes.toNat_lt_size, scaled.memory.toNat_lt_size⟩]
    simp

theorem scale?_eq_none_iff {cost : Cost} {difficulty : UInt32} :
    cost.scale? difficulty = none ↔
      UInt32.size ≤ cost.passes.toNat * difficulty.toNat ∨
        UInt32.size ≤ cost.memory.toNat * difficulty.toNat := by
  rw [scale?]
  split
  · simp
    omega
  · simp
    omega

end Cost

end Argon2

namespace Seed

variable {cost scaled : Argon2.Cost} {passphrase identity : List UInt8} {difficulty : UInt32}

/-- Costs that were scaled are used as they are, at difficulty one. -/
theorem derive_of_scale?_eq_some (hNonzero : difficulty ≠ 0)
    (hScale : cost.scale? difficulty = some scaled) :
    derive cost passphrase identity difficulty = derive scaled passphrase identity 1 := by
  have hOne : scaled.scale? 1 = some scaled := by simp [Argon2.Cost.scale?_eq_some_iff]
  rw [derive, derive, if_neg hNonzero, if_neg (show (1 : UInt32) ≠ 0 by decide), hScale, hOne]

theorem outcome_derive_one :
    (derive scaled passphrase identity 1).outcome =
      ((Argon2.derive scaled passphrase identity).mapError Error.argon2).map ofOctets := by
  have hOne : scaled.scale? 1 = some scaled := by simp [Argon2.Cost.scale?_eq_some_iff]
  rw [derive, if_neg (show (1 : UInt32) ≠ 0 by decide), hOne]
  dsimp only
  cases Argon2.derive scaled passphrase identity with
  | error fault => rfl
  | ok octets => rfl

/-- Why there is no seed. The faults of the cost are those of the scaled one. -/
inductive Refusal (cost : Argon2.Cost) (passphrase identity : List UInt8) (difficulty : UInt32) :
    Error → Prop where
  | zeroDifficulty (zero : difficulty = 0) :
      Refusal cost passphrase identity difficulty .zeroDifficulty
  | overflow (large : UInt32.size ≤ cost.passes.toNat * difficulty.toNat ∨
      UInt32.size ≤ cost.memory.toNat * difficulty.toNat) :
      Refusal cost passphrase identity difficulty (.costOverflow difficulty)
  | fault {scaled : Argon2.Cost} {fault : Argon2.Fault}
      (scaled_eq : cost.scale? difficulty = some scaled)
      (holds : fault.Holds scaled passphrase identity) :
      Refusal cost passphrase identity difficulty (.argon2 fault)

theorem Refusal.kind_eq {error : Error} (h : Refusal cost passphrase identity difficulty error) :
    error.kind = .crypto := by
  cases h with
  | zeroDifficulty => rfl
  | overflow => rfl
  | fault => rfl

/-- A derivation is refused for a reason, or it is a run at the scaled cost. -/
theorem outcome_derive_cases (cost : Argon2.Cost) (passphrase identity : List UInt8)
    (difficulty : UInt32) :
    (∃ error, (derive cost passphrase identity difficulty).outcome = .error error ∧
      Refusal cost passphrase identity difficulty error) ∨
    difficulty ≠ 0 ∧ ∃ scaled, cost.scale? difficulty = some scaled ∧
      Argon2.check scaled passphrase identity = .ok () ∧
      (derive cost passphrase identity difficulty).outcome =
        .ok (ofOctets (Argon2.output scaled passphrase identity)) := by
  by_cases hZero : difficulty = 0
  · refine .inl ⟨_, ?_, .zeroDifficulty hZero⟩
    rw [derive, if_pos hZero]
    rfl
  · cases hScale : cost.scale? difficulty with
    | none =>
        refine .inl ⟨_, ?_, .overflow (Argon2.Cost.scale?_eq_none_iff.mp hScale)⟩
        rw [derive, if_neg hZero, hScale]
        rfl
    | some scaled =>
        rw [derive_of_scale?_eq_some hZero hScale, outcome_derive_one, Argon2.derive_eq]
        cases hCheck : Argon2.check scaled passphrase identity with
        | error fault =>
            exact .inl ⟨_, rfl, .fault hScale (Argon2.holds_of_check_eq_error hCheck)⟩
        | ok => exact .inr ⟨hZero, scaled, rfl, hCheck, rfl⟩

/-- An error says what is wrong. -/
theorem refusal_of_outcome_eq_error {error : Error}
    (h : (derive cost passphrase identity difficulty).outcome = .error error) :
    Refusal cost passphrase identity difficulty error := by
  rcases outcome_derive_cases cost passphrase identity difficulty with
    ⟨found, hFound, hRefusal⟩ | ⟨-, scaled, -, -, hOk⟩
  · rw [h] at hFound
    cases hFound
    exact hRefusal
  · rw [h] at hOk
    cases hOk

/-- A seed comes from an accepted run at the scaled cost, and is all of its output. -/
theorem exists_of_outcome_eq_ok {seed : Seed}
    (h : (derive cost passphrase identity difficulty).outcome = .ok seed) :
    difficulty ≠ 0 ∧ ∃ scaled, cost.scale? difficulty = some scaled ∧
      Argon2.check scaled passphrase identity = .ok () ∧
      Argon2.derive scaled passphrase identity = .ok seed.toOctets := by
  rcases outcome_derive_cases cost passphrase identity difficulty with
    ⟨error, hError, -⟩ | ⟨hNonzero, scaled, hScale, hCheck, hOk⟩
  · rw [h] at hError
    cases hError
  · rw [h] at hOk
    obtain rfl := Except.ok.inj hOk
    refine ⟨hNonzero, scaled, hScale, hCheck, ?_⟩
    rw [Argon2.derive_eq, hCheck, toOctets_ofOctets]
    rfl

/-- There is a seed exactly for a difficulty, two products, a passphrase and an identity within the
limits. -/
theorem exists_outcome_eq_ok_iff :
    (∃ seed, (derive cost passphrase identity difficulty).outcome = .ok seed) ↔
      1 ≤ difficulty.toNat ∧
        (1 ≤ cost.passes.toNat * difficulty.toNat ∧
          cost.passes.toNat * difficulty.toNat < UInt32.size) ∧
        (8 ≤ cost.memory.toNat * difficulty.toNat ∧
          cost.memory.toNat * difficulty.toNat < UInt32.size) ∧
        passphrase.length < UInt32.size ∧ 8 ≤ identity.length ∧ identity.length < UInt32.size := by
  constructor
  · rintro ⟨seed, h⟩
    obtain ⟨hNonzero, scaled, hScale, hCheck, -⟩ := exists_of_outcome_eq_ok h
    obtain ⟨hPasses, hMemory⟩ := Argon2.Cost.scale?_eq_some_iff.mp hScale
    obtain ⟨hEnough, hOnce, hInputs⟩ := Argon2.check_eq_ok_iff.mp hCheck
    have hDifficulty : difficulty.toNat ≠ 0 := fun h => hNonzero (UInt32.toNat_inj.mp h)
    have hPassesSmall := scaled.passes.toNat_lt_size
    have hMemorySmall := scaled.memory.toNat_lt_size
    rw [hPasses] at hOnce hPassesSmall
    rw [hMemory] at hEnough hMemorySmall
    exact ⟨Nat.one_le_iff_ne_zero.mpr hDifficulty, ⟨hOnce, hPassesSmall⟩, ⟨hEnough, hMemorySmall⟩,
      hInputs⟩
  · rintro ⟨hDifficulty, ⟨hOnce, hPassesSmall⟩, ⟨hEnough, hMemorySmall⟩, hPassphrase, hEnoughSalt,
      hSalt⟩
    cases hOutcome : (derive cost passphrase identity difficulty).outcome with
    | ok seed => exact ⟨seed, rfl⟩
    | error error =>
        exfalso
        cases refusal_of_outcome_eq_error hOutcome with
        | zeroDifficulty hZero =>
            rw [hZero] at hDifficulty
            exact absurd hDifficulty (by decide)
        | overflow hLarge => omega
        | @fault scaled fault hScale hHolds =>
            obtain ⟨hPasses, hMemory⟩ := Argon2.Cost.scale?_eq_some_iff.mp hScale
            cases fault with
            | memoryTooSmall =>
                have hLess : scaled.memory.toNat < 8 := hHolds
                omega
            | tooFewPasses =>
                have hNone : scaled.passes.toNat < 1 := hHolds
                omega
            | passphraseTooLong => exact absurd hPassphrase (Nat.not_lt.mpr hHolds)
            | saltTooShort => exact absurd hEnoughSalt (Nat.not_le.mpr hHolds)
            | saltTooLong => exact absurd hSalt (Nat.not_lt.mpr hHolds)

/-- Equal products make equal seeds, with the same log. -/
theorem derive_congr {other : Argon2.Cost} {factor : UInt32} {seed : Seed}
    (h : (derive cost passphrase identity difficulty).outcome = .ok seed)
    (hPasses : other.passes.toNat * factor.toNat = cost.passes.toNat * difficulty.toNat)
    (hMemory : other.memory.toNat * factor.toNat = cost.memory.toNat * difficulty.toNat) :
    derive other passphrase identity factor = derive cost passphrase identity difficulty := by
  obtain ⟨-, ⟨hOnce, -⟩, -⟩ := exists_outcome_eq_ok_iff.mp ⟨seed, h⟩
  obtain ⟨hNonzero, scaled, hScale, -⟩ := exists_of_outcome_eq_ok h
  have hOther : other.scale? factor = some scaled := by
    rw [Argon2.Cost.scale?_eq_some_iff, hPasses, hMemory]
    exact Argon2.Cost.scale?_eq_some_iff.mp hScale
  have hFactor : factor ≠ 0 := by
    rintro rfl
    rw [← hPasses] at hOnce
    exact absurd hOnce (by simp)
  rw [derive_of_scale?_eq_some hFactor hOther, derive_of_scale?_eq_some hNonzero hScale]

/-- Scaling is exact, and its failures are total. There is a seed if and only if the difficulty is not
zero, the products of it with the passes and the memory are within the limits of Argon2id and of 32 bits
as whole numbers, the lengths of the passphrase and the identity fit into 32 bits too, and the identity is
long enough for a salt. Everything else is an error of the
cryptographic kind. The seed is that of the products at difficulty one, its halves make up the output of
Argon2id, and any other costs and difficulty with these products have the same seed. -/
theorem derive_scaled (cost : Argon2.Cost) (passphrase identity : List UInt8) (difficulty : UInt32) :
    ((∃ seed, (derive cost passphrase identity difficulty).outcome = .ok seed) ↔
      1 ≤ difficulty.toNat ∧
        (1 ≤ cost.passes.toNat * difficulty.toNat ∧
          cost.passes.toNat * difficulty.toNat < UInt32.size) ∧
        (8 ≤ cost.memory.toNat * difficulty.toNat ∧
          cost.memory.toNat * difficulty.toNat < UInt32.size) ∧
        passphrase.length < UInt32.size ∧ 8 ≤ identity.length ∧ identity.length < UInt32.size) ∧
    (∀ error, (derive cost passphrase identity difficulty).outcome = .error error →
      error.kind = .crypto) ∧
    ∀ seed, (derive cost passphrase identity difficulty).outcome = .ok seed →
      (∃ scaled : Argon2.Cost,
        scaled.passes.toNat = cost.passes.toNat * difficulty.toNat ∧
        scaled.memory.toNat = cost.memory.toNat * difficulty.toNat ∧
        (derive scaled passphrase identity 1).outcome = .ok seed ∧
        ∃ octets, Argon2.derive scaled passphrase identity = .ok octets ∧
          seed.signing.toList ++ seed.encryption.toList = octets.toList) ∧
      ∀ (other : Argon2.Cost) (factor : UInt32),
        other.passes.toNat * factor.toNat = cost.passes.toNat * difficulty.toNat →
        other.memory.toNat * factor.toNat = cost.memory.toNat * difficulty.toNat →
        (derive other passphrase identity factor).outcome = .ok seed := by
  refine ⟨exists_outcome_eq_ok_iff, fun error h => (refusal_of_outcome_eq_error h).kind_eq, ?_⟩
  intro seed h
  obtain ⟨hNonzero, scaled, hScale, -, hOctets⟩ := exists_of_outcome_eq_ok h
  obtain ⟨hPasses, hMemory⟩ := Argon2.Cost.scale?_eq_some_iff.mp hScale
  constructor
  · refine ⟨scaled, hPasses, hMemory, ?_, seed.toOctets, hOctets, rfl⟩
    rw [← derive_of_scale?_eq_some hNonzero hScale]
    exact h
  · intro other factor hOtherPasses hOtherMemory
    rw [derive_congr h hOtherPasses hOtherMemory]
    exact h

/-- Two costs with the same products make the same seed. A product whose lowest 32 bits are zero is
refused, and not wrapped around to nothing. -/
theorem derive_scaled_products :
    (∃ seed, (derive ⟨2, 8⟩ [0x61] [1, 2, 3, 4, 5, 6, 7, 8] 3).outcome = .ok seed ∧
      (derive ⟨3, 12⟩ [0x61] [1, 2, 3, 4, 5, 6, 7, 8] 2).outcome = .ok seed ∧
      ∃ octets, Argon2.derive ⟨6, 24⟩ [0x61] [1, 2, 3, 4, 5, 6, 7, 8] = .ok octets ∧
        seed.signing.toList ++ seed.encryption.toList = octets.toList) ∧
    ∃ error, (derive ⟨1, 0x40000000⟩ [0x61] [1, 2, 3, 4, 5, 6, 7, 8] 4).outcome = .error error ∧
      error.kind = .crypto := by
  constructor
  · obtain ⟨hExists, -, hSeed⟩ := derive_scaled ⟨2, 8⟩ [0x61] [1, 2, 3, 4, 5, 6, 7, 8] 3
    obtain ⟨seed, h⟩ := hExists.mpr (by decide)
    obtain ⟨⟨⟨passes, memory⟩, hPasses, hMemory, -, hOctets⟩, hOther⟩ := hSeed seed h
    obtain rfl : passes = 6 := UInt32.toNat_inj.mp hPasses
    obtain rfl : memory = 24 := UInt32.toNat_inj.mp hMemory
    exact ⟨seed, h, hOther ⟨3, 12⟩ 2 rfl rfl, hOctets⟩
  · obtain ⟨-, hKind, -⟩ := derive_scaled ⟨1, 0x40000000⟩ [0x61] [1, 2, 3, 4, 5, 6, 7, 8] 4
    exact ⟨.costOverflow 4, rfl, hKind _ rfl⟩

end Seed

end PhraseKey
