import PhraseKey.KeyParams
import PhraseKey.Proofs.CostScaling
import PhraseKey.Proofs.KeyFiles

/-!
Parameters that were built. A draft has what each parameter was set to last, and is built exactly if
these values can be used. From then on only the cost and a fingerprint can stand in the way of a key, and
nothing in the way of what is made with it.
-/

namespace PhraseKey

theorem Text.length_toUtf8 (text : String) : (Text.toUtf8 text).length = text.utf8ByteSize := by
  simp [Text.toUtf8]

/-- Everything that can be made of a certificate is made. -/
structure Certificate.Works (certificate : Certificate) : Prop where
  keyFile : ∃ octets, certificate.keyFile.outcome = .ok octets
  publicBytes : ∃ octets, certificate.publicBytes.outcome = .ok octets
  secretBytes : ∃ octets, certificate.secretBytes.outcome = .ok octets
  sign : ∀ document, document.ending = .endOfData →
    ∃ octets, (certificate.sign.run document).1.outcome = .ok octets

theorem Certificate.works {certificate : Certificate} (hLength : certificate.userId.id.length ≤ 255) :
    certificate.Works where
  keyFile := ⟨_, outcome_keyFile hLength⟩
  publicBytes := ⟨_, certificate.outcome_publicBytes hLength⟩
  secretBytes := ⟨_, outcome_secretBytes hLength⟩
  sign _ hEnding := ⟨_, certificate.key.outcome_sign hEnding⟩

namespace KeyParams

variable {settings : List Setting} {params : KeyParams}

/-- What a setting says about a parameter. -/
def Setting.value? (setting : Setting) (parameter : Parameter) : Option parameter.Value :=
  if h : setting.parameter = parameter then some (h ▸ setting.value) else none

/-- What a parameter was set to last. -/
def lastValue (parameter : Parameter) (settings : List Setting) : Option parameter.Value :=
  settings.reverse.findSome? (·.value? parameter)

theorem lastValue_cons (parameter : Parameter) (setting : Setting) (settings : List Setting) :
    lastValue parameter (setting :: settings) =
      (lastValue parameter settings).or (setting.value? parameter) := by
  simp [lastValue, List.findSome?_append]

namespace Draft

/-- What a parameter of a draft is set to. -/
def get (draft : Draft) : (parameter : Parameter) → Option parameter.Value
  | .userId => draft.userId
  | .passphrase => draft.passphrase
  | .difficulty => draft.difficulty
  | .created => draft.created
  | .subkey => draft.subkey
  | .detectsModification => draft.detectsModification
  | .cost => draft.cost

/-- A setting changes its own parameter and no other. -/
theorem get_put (draft : Draft) (setting : Setting) (parameter : Parameter) :
    (draft.put setting).get parameter = (setting.value? parameter).or (draft.get parameter) := by
  obtain ⟨changed, value⟩ := setting
  cases changed <;> cases parameter <;> rfl

/-- Settings replace those before them. -/
theorem get_foldl_put (draft : Draft) (settings : List Setting) (parameter : Parameter) :
    (settings.foldl put draft).get parameter =
      (lastValue parameter settings).or (draft.get parameter) := by
  induction settings generalizing draft with
  | nil => rfl
  | cons setting settings ih =>
      rw [List.foldl_cons, ih, get_put, lastValue_cons, Option.or_assoc]

theorem get_ofSettings (settings : List Setting) :
    (ofSettings settings).get = (lastValue · settings) := by
  funext parameter
  have hEmpty : empty.get parameter = none := by cases parameter <;> rfl
  rw [ofSettings, get_foldl_put, hEmpty, Option.or_none]

end Draft

/-- The values of these parameters can be used. -/
structure Valid (params : KeyParams) : Prop where
  userId_long : 8 ≤ (Text.toUtf8 params.userId).length
  userId_short : (Text.toUtf8 params.userId).length ≤ 255
  difficulty_ne : params.difficulty ≠ 0

/-- The parameters are these values. All but two have a default. -/
structure IsMadeOf (params : KeyParams) (values : (parameter : Parameter) → Option parameter.Value) :
    Prop where
  userId_eq : values .userId = some params.userId
  passphrase_eq : values .passphrase = some params.passphrase
  difficulty_eq : (values .difficulty).getD 1 = params.difficulty
  created_eq : (values .created).getD .epoch = params.created
  subkey_eq : (values .subkey).getD false = params.subkey
  detectsModification_eq : (values .detectsModification).getD false = params.detectsModification
  cost_eq : (values .cost).getD .standard = params.cost

namespace Draft

variable {draft : Draft}

/-- A draft that is not refused goes on to be checked. -/
theorem refused_eq_ok_iff {α : Type} {refused : Prop} [Decidable refused] {fault : ParameterFault}
    {rest : Except ParameterFault α} {value : α} :
    (if refused then .error fault else rest) = .ok value ↔ ¬refused ∧ rest = .ok value := by
  split <;> simp [*]

/-- Only the values that are set are checked. -/
theorem check_eq_ok_iff :
    draft.check = .ok () ↔ draft.difficulty ≠ some 0 ∧
      ∀ userId, draft.userId = some userId →
        8 ≤ (Text.toUtf8 userId).length ∧ (Text.toUtf8 userId).length ≤ 255 := by
  cases hUserId : draft.userId with
  | none =>
      have hCheck : draft.check =
          if draft.difficulty = some 0 then .error .zeroDifficulty else .ok () := by
        rw [check, hUserId]
        rfl
      simp [hCheck]
  | some userId =>
      have hCheck : draft.check =
          if draft.difficulty = some 0 then .error .zeroDifficulty
          else if userId.utf8ByteSize < 8 then .error (.shortUserId userId)
          else if 255 < userId.utf8ByteSize then .error (.longUserId userId.utf8ByteSize)
          else .ok () := by
        rw [check, hUserId]
        rfl
      simp [hCheck, refused_eq_ok_iff, Text.length_toUtf8]

/-- A parameter without a default has to be set. -/
theorem elim_throw_eq_ok_iff {α : Type} {value? : Option α} {fault : ParameterFault} {value : α} :
    (value?.elim (throw fault) pure : Except ParameterFault α) = .ok value ↔ value? = some value := by
  cases value? with
  | none => exact iff_of_false (fun h => by cases h) (fun h => by cases h)
  | some found => simp [Pure.pure, Except.pure]

/-- A draft is built into its values, if they can be used. -/
theorem build_eq_ok_iff :
    draft.build = .ok params ↔ params.IsMadeOf draft.get ∧ params.Valid := by
  constructor
  · intro h
    obtain ⟨_, hCheck, h⟩ := Outcome.exists_of_bind_eq_ok h
    obtain ⟨userId, hUserId, h⟩ := Outcome.exists_of_bind_eq_ok h
    obtain ⟨passphrase, hPassphrase, h⟩ := Outcome.exists_of_bind_eq_ok h
    rw [elim_throw_eq_ok_iff] at hUserId hPassphrase
    obtain ⟨hNonzero, hLength⟩ := check_eq_ok_iff.mp hCheck
    obtain ⟨hLong, hShort⟩ := hLength userId hUserId
    cases h
    refine ⟨⟨hUserId, hPassphrase, rfl, rfl, rfl, rfl, rfl⟩, ⟨hLong, hShort, ?_⟩⟩
    cases hDifficulty : draft.difficulty with
    | none => simp
    | some difficulty => simpa [hDifficulty] using hNonzero
  · rintro ⟨hMade, hValid⟩
    obtain ⟨hUserId, hPassphrase, hDifficulty, hCreated, hSubkey, hDetects, hCost⟩ := hMade
    change draft.userId = _ at hUserId
    change draft.passphrase = _ at hPassphrase
    have hCheck : draft.check = .ok () := by
      rw [check_eq_ok_iff]
      constructor
      · intro hZero
        change draft.difficulty.getD 1 = _ at hDifficulty
        rw [hZero] at hDifficulty
        exact hValid.difficulty_ne hDifficulty.symm
      · intro userId hSet
        obtain rfl := Option.some.inj (hUserId.symm.trans hSet)
        exact ⟨hValid.userId_long, hValid.userId_short⟩
    rcases params with ⟨userId, passphrase, difficulty, created, subkey, detects, cost⟩
    cases hDifficulty
    cases hCreated
    cases hSubkey
    cases hDetects
    cases hCost
    rw [build, hCheck, hUserId, hPassphrase]
    rfl

end Draft

/-- One of the keys of a seed has no fingerprint. -/
def Collides (params : KeyParams) (seed : Seed) : Prop :=
  SigningKey.ofSeed seed.signing params.created = .error .sha1Collision ∨
    params.subkey = true ∧
      EncryptionSubkey.ofSeed seed.encryption params.created = .error .sha1Collision

/-- Why there is no key of parameters that can be used. -/
inductive Refusal (params : KeyParams) : Error → Prop where
  | overflow (large : UInt32.size ≤ params.cost.passes.toNat * params.difficulty.toNat ∨
      UInt32.size ≤ params.cost.memory.toNat * params.difficulty.toNat) :
      Refusal params (.costOverflow params.difficulty)
  | memoryTooSmall (small : params.cost.memory.toNat * params.difficulty.toNat < 8) :
      Refusal params (.argon2 .memoryTooSmall)
  | tooFewPasses (few : params.cost.passes.toNat * params.difficulty.toNat < 1) :
      Refusal params (.argon2 .tooFewPasses)
  | passphraseTooLong (long : UInt32.size ≤ params.passphrase.length) :
      Refusal params (.argon2 .passphraseTooLong)
  | collision {seed : Seed}
      (seed_eq : (Seed.derive params.cost params.passphrase (Text.toUtf8 params.userId)
        params.difficulty).outcome = .ok seed)
      (collides : params.Collides seed) : Refusal params .sha1Collision

/-- A refusal is of the cryptographic kind, and never for the length of the user id. -/
theorem Refusal.kind_eq {error : Error} (h : params.Refusal error) :
    error.kind = .crypto ∧ error ≠ .argon2 .saltTooShort ∧ error ≠ .argon2 .saltTooLong := by
  cases h <;> exact ⟨rfl, by simp, by simp⟩

/-- The user id has the length of a salt, so a derivation is refused for its cost or its passphrase. -/
theorem Valid.refusal_of_seed (valid : params.Valid) {error : Error}
    (h : Seed.Refusal params.cost params.passphrase (Text.toUtf8 params.userId) params.difficulty
      error) :
    params.Refusal error := by
  cases h with
  | zeroDifficulty hZero => exact absurd hZero valid.difficulty_ne
  | overflow hLarge => exact .overflow hLarge
  | @fault scaled fault hScale hHolds =>
      obtain ⟨hPasses, hMemory⟩ := Argon2.Cost.scale?_eq_some_iff.mp hScale
      cases fault with
      | memoryTooSmall => exact .memoryTooSmall (hMemory ▸ hHolds)
      | tooFewPasses => exact .tooFewPasses (hPasses ▸ hHolds)
      | passphraseTooLong => exact .passphraseTooLong hHolds
      | saltTooShort => exact absurd valid.userId_long (Nat.not_le.mpr hHolds)
      | saltTooLong =>
          have hLimit : 255 < UInt32.size := by decide
          exact absurd valid.userId_short (Nat.not_le.mpr (Nat.lt_of_lt_of_le hLimit hHolds))

/-- The keys of a seed. -/
def ofSeed (params : KeyParams) (seed : Seed) : Logged Certificate := do
  let key ← SigningKey.fromSeed seed.signing params.created
  if params.subkey then
    let subkey ← EncryptionSubkey.fromSeed seed.encryption params.created
    return ⟨key, params.certifiedUserId, some subkey⟩
  else
    return ⟨key, params.certifiedUserId, none⟩

theorem generate_eq (params : KeyParams) :
    params.generate = (do
      Logged.debug ("deriving key for " ++ Text.quoted params.userId ++ " at difficulty " ++
        toString params.difficulty.toNat)
      let seed ← Seed.derive params.cost params.passphrase (Text.toUtf8 params.userId)
        params.difficulty
      params.ofSeed seed) :=
  rfl

theorem outcome_generate (params : KeyParams) :
    params.generate.outcome = (Seed.derive params.cost params.passphrase (Text.toUtf8 params.userId)
      params.difficulty >>= params.ofSeed).outcome := by
  rw [generate_eq]
  exact Logged.outcome_bind_of_ok rfl _

/-- A certificate with the keys of a seed, one of which is only made if it is wanted. -/
inductive Makes (params : KeyParams) (seed : Seed) : Certificate → Prop where
  | alone {key : SigningKey} (unwanted : ¬ params.subkey = true)
      (key_eq : SigningKey.ofSeed seed.signing params.created = .ok key) :
      Makes params seed ⟨key, params.certifiedUserId, none⟩
  | withSubkey {key : SigningKey} {subkey : EncryptionSubkey} (wanted : params.subkey = true)
      (key_eq : SigningKey.ofSeed seed.signing params.created = .ok key)
      (subkey_eq : EncryptionSubkey.ofSeed seed.encryption params.created = .ok subkey) :
      Makes params seed ⟨key, params.certifiedUserId, some subkey⟩

theorem Makes.userId_eq {seed : Seed} {certificate : Certificate}
    (h : params.Makes seed certificate) :
    certificate.userId = params.certifiedUserId := by
  cases h <;> rfl

/-- A seed has its keys, unless one of them has no fingerprint. -/
theorem outcome_ofSeed_cases (params : KeyParams) (seed : Seed) :
    (params.ofSeed seed).outcome = .error .sha1Collision ∧ params.Collides seed ∨
    ∃ certificate, (params.ofSeed seed).outcome = .ok certificate ∧
      params.Makes seed certificate := by
  cases hKey : SigningKey.ofSeed seed.signing params.created with
  | error error =>
      obtain rfl := SigningKey.eq_of_ofSeed_eq_error hKey
      have hFails := (SigningKey.outcome_fromSeed seed.signing params.created).trans hKey
      rw [ofSeed, Logged.outcome_bind_of_error hFails]
      exact .inl ⟨rfl, .inl hKey⟩
  | ok key =>
      have hMade := (SigningKey.outcome_fromSeed seed.signing params.created).trans hKey
      rw [ofSeed, Logged.outcome_bind_of_ok hMade]
      by_cases hWanted : params.subkey = true
      · rw [if_pos hWanted]
        cases hSubkey : EncryptionSubkey.ofSeed seed.encryption params.created with
        | error error =>
            obtain rfl := EncryptionSubkey.eq_of_ofSeed_eq_error hSubkey
            have hFails :=
              (EncryptionSubkey.outcome_fromSeed seed.encryption params.created).trans hSubkey
            rw [Logged.outcome_bind_of_error hFails]
            exact .inl ⟨rfl, .inr ⟨hWanted, hSubkey⟩⟩
        | ok subkey =>
            have hMade :=
              (EncryptionSubkey.outcome_fromSeed seed.encryption params.created).trans hSubkey
            rw [Logged.outcome_bind_of_ok hMade]
            exact .inr ⟨_, rfl, .withSubkey hWanted hKey hSubkey⟩
      · rw [if_neg hWanted]
        exact .inr ⟨_, rfl, .alone hWanted hKey⟩

/-- A key is refused, or it is derived and has the user id of its parameters. -/
theorem Valid.outcome_generate_cases (valid : params.Valid) :
    (∃ error, params.generate.outcome = .error error ∧ params.Refusal error) ∨
    ∃ certificate, params.generate.outcome = .ok certificate ∧
      certificate.userId = params.certifiedUserId := by
  rw [outcome_generate]
  cases hSeed : (Seed.derive params.cost params.passphrase (Text.toUtf8 params.userId)
      params.difficulty).outcome with
  | error error =>
      rw [Logged.outcome_bind_of_error hSeed]
      exact .inl ⟨error, rfl, valid.refusal_of_seed (Seed.refusal_of_outcome_eq_error hSeed)⟩
  | ok seed =>
      rw [Logged.outcome_bind_of_ok hSeed]
      rcases params.outcome_ofSeed_cases seed with ⟨hFails, hCollides⟩ | ⟨_, hMade, hMakes⟩
      · exact .inl ⟨_, hFails, .collision hSeed hCollides⟩
      · exact .inr ⟨_, hMade, hMakes.userId_eq⟩

/-- Values that can be used have parameters. -/
theorem exists_isMadeOf_iff {values : (parameter : Parameter) → Option parameter.Value} :
    (∃ params : KeyParams, params.IsMadeOf values ∧ params.Valid) ↔
      (∃ userId, values .userId = some userId ∧
        8 ≤ (Text.toUtf8 userId).length ∧ (Text.toUtf8 userId).length ≤ 255) ∧
      (∃ passphrase, values .passphrase = some passphrase) ∧ values .difficulty ≠ some 0 := by
  constructor
  · rintro ⟨params, hMade, hValid⟩
    refine ⟨⟨_, hMade.userId_eq, hValid.userId_long, hValid.userId_short⟩,
      ⟨_, hMade.passphrase_eq⟩, fun hZero => hValid.difficulty_ne ?_⟩
    rw [← hMade.difficulty_eq, hZero]
    rfl
  · rintro ⟨⟨userId, hUserId, hLong, hShort⟩, ⟨passphrase, hPassphrase⟩, hNonzero⟩
    refine ⟨⟨userId, passphrase, _, _, _, _, _⟩, ⟨hUserId, hPassphrase, rfl, rfl, rfl, rfl, rfl⟩,
      ⟨hLong, hShort, ?_⟩⟩
    cases hDifficulty : values .difficulty with
    | none => simp
    | some difficulty => simpa [hDifficulty] using hNonzero

/-- Parameters that were validated do not fail late. After any settings, one after another, a draft is
built if and only if the last user id is of 8 to 255 octets, there is a passphrase, and the last difficulty
is not zero. What is built are the last values. Their key is refused only for a cost that overflows or that
Argon2id does not take, for a passphrase whose length takes more than 32 bits, or for a reported collision,
and never for the length of the user id, or else everything that can be made of it is made. -/
theorem build_generates (settings : List Setting) :
    ((∃ params, (Draft.ofSettings settings).build = .ok params) ↔
      (∃ userId, lastValue .userId settings = some userId ∧
        8 ≤ (Text.toUtf8 userId).length ∧ (Text.toUtf8 userId).length ≤ 255) ∧
      (∃ passphrase, lastValue .passphrase settings = some passphrase) ∧
      lastValue .difficulty settings ≠ some 0) ∧
    ∀ params, (Draft.ofSettings settings).build = .ok params →
      params.IsMadeOf (lastValue · settings) ∧
      ((∃ error, params.generate.outcome = .error error ∧ params.Refusal error ∧
          error.kind = .crypto ∧ error ≠ .argon2 .saltTooShort ∧ error ≠ .argon2 .saltTooLong) ∨
        ∃ certificate, params.generate.outcome = .ok certificate ∧ certificate.Works) := by
  simp only [Draft.build_eq_ok_iff, Draft.get_ofSettings]
  refine ⟨exists_isMadeOf_iff, ?_⟩
  rintro params ⟨hMade, hValid⟩
  refine ⟨hMade, ?_⟩
  rcases hValid.outcome_generate_cases with ⟨error, hFails, hRefusal⟩ | ⟨certificate, hMade, hUserId⟩
  · exact .inl ⟨error, hFails, hRefusal, hRefusal.kind_eq⟩
  · -- only the length of the user id could still stand in the way
    refine .inr ⟨certificate, hMade, Certificate.works ?_⟩
    rw [hUserId]
    exact hValid.userId_short

/-- A user id and a difficulty that cannot be used do not matter once they are replaced. With four KiB of
memory there is no key, and with eight there is one that everything can be made of, unless a collision is
reported. A difficulty of zero at the end is refused. -/
theorem build_generates_replaced :
    let replaced : List Setting := [⟨.userId, "a"⟩, ⟨.difficulty, 0⟩, ⟨.passphrase, [0x61]⟩,
      ⟨.userId, "a@example.org"⟩, ⟨.difficulty, 2⟩, ⟨.cost, ⟨1, 2⟩⟩]
    (∃ params, (Draft.ofSettings replaced).build = .ok params ∧ params.userId = "a@example.org" ∧
      params.difficulty = 2 ∧ params.created = .epoch ∧
      params.generate.outcome = .error (.argon2 .memoryTooSmall)) ∧
    (∃ params, (Draft.ofSettings (replaced ++ [⟨.cost, ⟨1, 4⟩⟩])).build = .ok params ∧
      (params.generate.outcome = .error .sha1Collision ∨
        ∃ certificate, params.generate.outcome = .ok certificate ∧ certificate.Works)) ∧
    ¬∃ params, (Draft.ofSettings (replaced ++ [⟨.difficulty, 0⟩])).build = .ok params := by
  intro replaced
  have hLength : 8 ≤ (Text.toUtf8 "a@example.org").length ∧
      (Text.toUtf8 "a@example.org").length ≤ 255 := by
    rw [Text.length_toUtf8]
    decide
  refine ⟨?_, ?_, fun hBuilt => ?_⟩
  · obtain ⟨hBuilds, hBuilt⟩ := build_generates replaced
    obtain ⟨params, hParams⟩ := hBuilds.mpr ⟨⟨_, rfl, hLength⟩, ⟨_, rfl⟩, by decide⟩
    obtain ⟨hMade, -⟩ := hBuilt params hParams
    refine ⟨params, hParams, ?_⟩
    rcases params with ⟨userId, passphrase, difficulty, created, subkey, detects, cost⟩
    cases hMade.userId_eq
    cases hMade.passphrase_eq
    cases hMade.difficulty_eq
    cases hMade.created_eq
    cases hMade.subkey_eq
    cases hMade.detectsModification_eq
    cases hMade.cost_eq
    exact ⟨rfl, rfl, rfl, rfl⟩
  · obtain ⟨hBuilds, hBuilt⟩ := build_generates (replaced ++ [⟨.cost, ⟨1, 4⟩⟩])
    obtain ⟨params, hParams⟩ := hBuilds.mpr ⟨⟨_, rfl, hLength⟩, ⟨_, rfl⟩, by decide⟩
    obtain ⟨hMade, hGenerates⟩ := hBuilt params hParams
    refine ⟨params, hParams, ?_⟩
    have hDifficulty : (2 : UInt32) = params.difficulty := hMade.difficulty_eq
    have hCost : (⟨1, 4⟩ : Argon2.Cost) = params.cost := hMade.cost_eq
    rcases hGenerates with ⟨error, hFails, hRefusal, -⟩ | hMade
    · cases hRefusal with
      | overflow hLarge =>
          rw [← hDifficulty, ← hCost] at hLarge
          exact absurd hLarge (by decide)
      | memoryTooSmall hSmall =>
          rw [← hDifficulty, ← hCost] at hSmall
          exact absurd hSmall (by decide)
      | tooFewPasses hFew =>
          rw [← hDifficulty, ← hCost] at hFew
          exact absurd hFew (by decide)
      | passphraseTooLong hLong =>
          have hOctet : some [0x61] = some params.passphrase := hMade.passphrase_eq
          rw [← Option.some.inj hOctet] at hLong
          exact absurd hLong (by decide)
      | collision => exact .inl hFails
    · exact .inr hMade
  · obtain ⟨-, -, hNonzero⟩ :=
      (build_generates (replaced ++ [⟨.difficulty, 0⟩])).1.mp hBuilt
    exact hNonzero rfl

end KeyParams

end PhraseKey
