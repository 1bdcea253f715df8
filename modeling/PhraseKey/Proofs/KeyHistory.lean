import PhraseKey.Proofs.KeyLoading

/-!
Keys whose creation time changes. A change makes the key of the same secret at another time, or fails
and leaves the key alone. So after any changes a key is still that of its secret, and has the point and
the fingerprint that follow from it: nothing of an earlier time is left over.
-/

namespace PhraseKey

namespace Digest.Sha1

/-- The chaining value behind a block. -/
def next (s : State) (block : List UInt8) : State :=
  s.add ((steps (schedule block)).foldl stepForward s)

/-- The digest of any message, also of one that was built to collide. -/
def digest (message : List UInt8) : Octets 20 :=
  ⟨((blocks 64 8 message).foldl next .initial).words.flatMap fun word => bigEndian 4 word.toNat,
    by simp [State.words]⟩

theorem fst_compress (s : State) (block : List UInt8) : (compress s block).1 = next s block := rfl

theorem eq_next_of_compress? {s t : State} {block : List UInt8} (h : compress? s block = some t) :
    t = next s block := by
  rw [compress?] at h
  rw [← fst_compress]
  -- Nothing may look into whether the block collides.
  generalize compress s block = result at h
  obtain ⟨following, collides⟩ := result
  cases collides with
  | false => exact (Option.some.inj h).symm
  | true => cases h

theorem eq_foldl_of_chain {blocks : List (List UInt8)} {s last : State}
    (h : chain s blocks = some last) : last = blocks.foldl next s := by
  induction blocks generalizing s with
  | nil => exact (Option.some.inj h).symm
  | cons block rest ih =>
      rw [chain, List.foldlM_cons, Option.bind_eq_bind, Option.bind_eq_some_iff] at h
      obtain ⟨middle, hFirst, hRest⟩ := h
      obtain rfl := eq_next_of_compress? hFirst
      exact ih hRest

/-- A digest that is not withheld is the digest. -/
theorem eq_digest_of_digest? {message : List UInt8} {found : Octets 20}
    (h : digest? message = some found) : found = digest message := by
  rw [digest?, Option.bind_eq_bind, Option.bind_eq_some_iff] at h
  obtain ⟨last, hChain, hFound⟩ := h
  obtain rfl := eq_foldl_of_chain hChain
  exact (Option.some.inj hFound).symm

/-- The digest of the letters "abc". -/
example : (digest [0x61, 0x62, 0x63]).toList = [0xA9, 0x99, 0x3E, 0x36, 0x47, 0x06, 0x81, 0x6A, 0xBA,
    0x3E, 0x25, 0x71, 0x78, 0x50, 0xC2, 0x6C, 0x9C, 0xD0, 0xD8, 0x9D] := by
  decide +kernel

end Digest.Sha1

/-- A fingerprint is the digest of the public part as it is hashed. -/
theorem PublicKey.octets_eq_of_fingerprint_eq_ok {key : PublicKey} {fingerprint : Fingerprint}
    (h : key.fingerprint = .ok fingerprint) :
    fingerprint.octets = Digest.Sha1.digest key.preimage := by
  rw [PublicKey.fingerprint, Fingerprint.ofPreimage] at h
  split at h
  · next found hDigest =>
      obtain rfl := Except.ok.inj h
      exact Digest.Sha1.eq_digest_of_digest? hDigest
  · cases h

section Changes

variable {Key : Type}

/-- Make changes one after another, whether they succeed or fail: the outcome of each, and the key in
the end. -/
def changeAll (change : Key → Timestamp → Except Error Unit × Key) :
    Key → List Timestamp → List (Except Error Unit) × Key
  | key, [] => ([], key)
  | key, time :: times =>
    let (outcome, changed) := change key time
    let (outcomes, last) := changeAll change changed times
    (outcome :: outcomes, last)

/-- Changing a key that can be made makes the key of the other time, or leaves the key alone. -/
structure Remakes (change : Key → Timestamp → Except Error Unit × Key)
    (make : Timestamp → Except Error Key) : Prop where
  change_eq : ∀ {created key}, make created = .ok key → ∀ time,
    change key time = ((make time).map fun _ => (), (make time).toOption.getD key)

variable {change : Key → Timestamp → Except Error Unit × Key} {make : Timestamp → Except Error Key}
    {created : Timestamp} {key : Key}

namespace Remakes

theorem eq_of_fst_eq_error (hRemakes : Remakes change make) (h : make created = .ok key)
    {time : Timestamp} {error : Error} (hError : (change key time).1 = .error error) :
    (change key time).2 = key ∧ make time = .error error := by
  rw [hRemakes.change_eq h] at hError ⊢
  cases hMake : make time with
  | error found =>
      rw [hMake] at hError
      exact ⟨rfl, congrArg Except.error (Except.error.inj hError)⟩
  | ok changed =>
      rw [hMake] at hError
      cases hError

theorem eq_of_fst_eq_ok (hRemakes : Remakes change make) (h : make created = .ok key)
    {time : Timestamp} (hOk : (change key time).1 = .ok ()) :
    make time = .ok (change key time).2 := by
  rw [hRemakes.change_eq h] at hOk ⊢
  cases hMake : make time with
  | error found =>
      rw [hMake] at hOk
      cases hOk
  | ok changed => rfl

/-- A key that can be made is one that can be made after any change. -/
theorem exists_make_change (hRemakes : Remakes change make) (h : make created = .ok key)
    (time : Timestamp) : ∃ created, make created = .ok (change key time).2 := by
  cases hOutcome : (change key time).1 with
  | error error =>
      rw [(hRemakes.eq_of_fst_eq_error h hOutcome).1]
      exact ⟨created, h⟩
  | ok _ => exact ⟨time, hRemakes.eq_of_fst_eq_ok h hOutcome⟩

theorem exists_make_changeAll (hRemakes : Remakes change make) (h : make created = .ok key)
    (times : List Timestamp) : ∃ created, make created = .ok (changeAll change key times).2 := by
  induction times generalizing created key with
  | nil => exact ⟨created, h⟩
  | cons time times ih =>
      obtain ⟨_, hChanged⟩ := hRemakes.exists_make_change h time
      exact ih hChanged

/-- Every change succeeds or fails as if it was the only one, and the last that succeeds counts. -/
theorem changeAll_eq (hRemakes : Remakes change make) (h : make created = .ok key)
    (times : List Timestamp) :
    changeAll change key times = (times.map fun time => (make time).map fun _ => (),
      (times.filterMap fun time => (make time).toOption).getLast?.getD key) := by
  induction times generalizing created key with
  | nil => rfl
  | cons time times ih =>
      obtain ⟨_, hChanged⟩ := hRemakes.exists_make_change h time
      simp only [changeAll, ih hChanged]
      rw [hRemakes.change_eq h]
      cases hMake : make time with
      | error error => simp [hMake]
      | ok changed => simp [hMake]

/-- A change that succeeds makes up for everything before it. -/
theorem changeAll_concat (hRemakes : Remakes change make) (h : make created = .ok key)
    (times : List Timestamp) {time : Timestamp} {last : Key} (hLast : make time = .ok last) :
    (changeAll change key (times ++ [time])).2 = last := by
  simp [hRemakes.changeAll_eq h, hLast, Except.toOption]

end Remakes

end Changes

namespace SigningKey

/-- Where a primary key with some seed is from: it was made of the seed, or it was loaded. -/
inductive Origin : Octets 32 → SigningKey → Prop where
  | made {seed : Octets 32} {created : Timestamp} {key : SigningKey}
      (h : (fromSeed seed created).outcome = .ok key) : Origin seed key
  | loaded {source : Source} {key : SigningKey} (h : (read.run source).1.outcome = .ok key) :
      Origin key.seed key

/-- Every part of a primary key is the one that follows from this seed and from the time that the key
has. A change of the time makes the key of the seed at the other time, or fails like making it, and
then nothing is changed. -/
structure CoherentWith (seed : Octets 32) (key : SigningKey) : Prop where
  seed_eq : key.seed = seed
  publicKey_eq : key.publicKey = ⟨key.created, .ed25519, Ed25519.publicKey seed⟩
  fingerprint_eq : key.fingerprint.octets = Digest.Sha1.digest key.publicKey.preimage
  fromSeed_eq : (fromSeed seed key.created).outcome = .ok key
  change_of_ok : ∀ {time}, (key.setCreated time).1 = .ok () →
    (fromSeed seed time).outcome = .ok (key.setCreated time).2
  change_of_error : ∀ {time error}, (key.setCreated time).1 = .error error →
    (key.setCreated time).2 = key ∧ (fromSeed seed time).outcome = .error error

/-- A key at another time is the key of its seed at that time. -/
theorem recreate_eq (key : SigningKey) (time : Timestamp) :
    key.recreate time = ofSeed key.seed time := by
  cases hFingerprint : PublicKey.fingerprint { key.publicKey with created := time } with
  | error error =>
      have hRecreate : key.recreate time = .error error := by
        rw [recreate, Outcome.attach_of_error hFingerprint]
        rfl
      have hPublic : { key.publicKey with created := time } =
          PublicKey.mk time .ed25519 (Ed25519.publicKey key.seed) := by
        rw [← key.curve_eq, ← key.point_eq]
      rw [hPublic] at hFingerprint
      rw [hRecreate, ofSeed, Outcome.attach_of_error hFingerprint]
      rfl
  | ok fingerprint =>
      have hRecreate : key.recreate time = .ok ⟨key.seed, { key.publicKey with created := time },
          fingerprint, key.curve_eq, key.point_eq, hFingerprint⟩ := by
        rw [recreate, Outcome.attach_of_ok hFingerprint]
        rfl
      exact hRecreate.trans (ofSeed_seed _).symm

theorem remakes_setCreated (seed : Octets 32) : Remakes setCreated (ofSeed seed) := by
  constructor
  intro created key h time
  rw [setCreated, recreate_eq, (eq_of_ofSeed_eq_ok h).1]

theorem Origin.exists_ofSeed {seed : Octets 32} {key : SigningKey} (hOrigin : Origin seed key) :
    ∃ created, ofSeed seed created = .ok key := by
  cases hOrigin with
  | made h =>
      rw [outcome_fromSeed] at h
      exact ⟨_, h⟩
  | loaded h => exact ⟨_, key.ofSeed_seed⟩

theorem coherentWith_of_ofSeed {seed : Octets 32} {created : Timestamp} {key : SigningKey}
    (h : ofSeed seed created = .ok key) : key.CoherentWith seed := by
  have hRemakes := remakes_setCreated seed
  obtain ⟨hSeed, hCreated⟩ := eq_of_ofSeed_eq_ok h
  constructor
  case seed_eq => exact hSeed
  case publicKey_eq => rw [← hSeed, ← key.publicKey_eq]
  case fingerprint_eq => exact PublicKey.octets_eq_of_fingerprint_eq_ok key.fingerprint_eq
  case fromSeed_eq => rw [outcome_fromSeed, hCreated, h]
  case change_of_ok =>
    intro time hOk
    rw [outcome_fromSeed, hRemakes.eq_of_fst_eq_ok h hOk]
  case change_of_error =>
    intro time error hError
    rw [outcome_fromSeed]
    exact hRemakes.eq_of_fst_eq_error h hError

/-- The key in the end is that of the same seed, and so is every key on the way. -/
theorem changeAll_setCreated {seed : Octets 32} {key : SigningKey} (hOrigin : Origin seed key)
    (times : List Timestamp) :
    (changeAll setCreated key times).2.CoherentWith seed ∧
      changeAll setCreated key times =
        (times.map fun time => (fromSeed seed time).outcome.map fun _ => (),
          (times.filterMap fun time => (fromSeed seed time).outcome.toOption).getLast?.getD key) := by
  have hRemakes := remakes_setCreated seed
  obtain ⟨_, hMade⟩ := hOrigin.exists_ofSeed
  obtain ⟨_, hLast⟩ := hRemakes.exists_make_changeAll hMade times
  constructor
  · exact coherentWith_of_ofSeed hLast
  · simp only [outcome_fromSeed]
    exact hRemakes.changeAll_eq hMade times

end SigningKey

namespace EncryptionSubkey

/-- Where a subkey with some secret is from: it was made of a seed, which was clamped, or it was
loaded. -/
inductive Origin : Octets 32 → EncryptionSubkey → Prop where
  | made {seed : Octets 32} {created : Timestamp} {key : EncryptionSubkey}
      (h : (fromSeed seed created).outcome = .ok key) : Origin (Curve25519.clamp seed) key
  | loaded {source : Source} {key : EncryptionSubkey} (h : (read.run source).1.outcome = .ok key) :
      Origin key.secret key

/-- Every part of a subkey is the one that follows from this secret, which is clamped, and from the time
that the subkey has. A change of the time makes the subkey of the secret at the other time, or fails
like making it, and then nothing is changed. -/
structure CoherentWith (secret : Octets 32) (key : EncryptionSubkey) : Prop where
  secret_eq : key.secret = secret
  clamp_eq : Curve25519.clamp secret = secret
  publicKey_eq : key.publicKey = ⟨key.created, .curve25519, X25519.publicKey secret⟩
  fingerprint_eq : key.fingerprint.octets = Digest.Sha1.digest key.publicKey.preimage
  fromSeed_eq : (fromSeed secret key.created).outcome = .ok key
  change_of_ok : ∀ {time}, (key.setCreated time).1 = .ok () →
    (fromSeed secret time).outcome = .ok (key.setCreated time).2
  change_of_error : ∀ {time error}, (key.setCreated time).1 = .error error →
    (key.setCreated time).2 = key ∧ (fromSeed secret time).outcome = .error error

/-- A subkey at another time is the subkey of its secret at that time. -/
theorem recreate_eq (key : EncryptionSubkey) (time : Timestamp) :
    key.recreate time = ofSeed key.secret time := by
  cases hFingerprint : PublicKey.fingerprint { key.publicKey with created := time } with
  | error error =>
      have hRecreate : key.recreate time = .error error := by
        rw [recreate, Outcome.attach_of_error hFingerprint]
        rfl
      have hPublic : { key.publicKey with created := time } =
          PublicKey.mk time .curve25519 (X25519.publicKey (Curve25519.clamp key.secret)) := by
        rw [← key.curve_eq, key.clamp_secret, ← key.point_eq]
      rw [hPublic] at hFingerprint
      rw [hRecreate, ofSeed, Outcome.attach_of_error hFingerprint]
      rfl
  | ok fingerprint =>
      have hRecreate : key.recreate time = .ok ⟨key.secret, { key.publicKey with created := time },
          fingerprint, key.clamp_secret, key.curve_eq, key.point_eq, hFingerprint⟩ := by
        rw [recreate, Outcome.attach_of_ok hFingerprint]
        rfl
      exact hRecreate.trans (ofSeed_secret _).symm

theorem remakes_setCreated {secret : Octets 32} (hClamped : Curve25519.clamp secret = secret) :
    Remakes setCreated (ofSeed secret) := by
  constructor
  intro created key h time
  rw [setCreated, recreate_eq, (eq_of_ofSeed_eq_ok h).1, hClamped]

/-- Clamping the seed first makes the same subkey. -/
theorem Origin.exists_ofSeed {secret : Octets 32} {key : EncryptionSubkey}
    (hOrigin : Origin secret key) :
    Curve25519.clamp secret = secret ∧ ∃ created, ofSeed secret created = .ok key := by
  cases hOrigin with
  | made h =>
      rw [outcome_fromSeed] at h
      rw [← (eq_of_ofSeed_eq_ok h).1]
      exact ⟨key.clamp_secret, _, key.ofSeed_secret⟩
  | loaded h => exact ⟨key.clamp_secret, _, key.ofSeed_secret⟩

theorem coherentWith_of_ofSeed {secret : Octets 32} {created : Timestamp} {key : EncryptionSubkey}
    (hClamped : Curve25519.clamp secret = secret) (h : ofSeed secret created = .ok key) :
    key.CoherentWith secret := by
  have hRemakes := remakes_setCreated hClamped
  obtain ⟨hSecret, hCreated⟩ := eq_of_ofSeed_eq_ok h
  rw [hClamped] at hSecret
  constructor
  case secret_eq => exact hSecret
  case clamp_eq => exact hClamped
  case publicKey_eq => rw [← hSecret, ← key.publicKey_eq]
  case fingerprint_eq => exact PublicKey.octets_eq_of_fingerprint_eq_ok key.fingerprint_eq
  case fromSeed_eq => rw [outcome_fromSeed, hCreated, h]
  case change_of_ok =>
    intro time hOk
    rw [outcome_fromSeed, hRemakes.eq_of_fst_eq_ok h hOk]
  case change_of_error =>
    intro time error hError
    rw [outcome_fromSeed]
    exact hRemakes.eq_of_fst_eq_error h hError

theorem changeAll_setCreated {secret : Octets 32} {key : EncryptionSubkey}
    (hOrigin : Origin secret key) (times : List Timestamp) :
    (changeAll setCreated key times).2.CoherentWith secret ∧
      changeAll setCreated key times =
        (times.map fun time => (fromSeed secret time).outcome.map fun _ => (),
          (times.filterMap fun time =>
            (fromSeed secret time).outcome.toOption).getLast?.getD key) := by
  obtain ⟨hClamped, _, hMade⟩ := hOrigin.exists_ofSeed
  have hRemakes := remakes_setCreated hClamped
  obtain ⟨_, hLast⟩ := hRemakes.exists_make_changeAll hMade times
  constructor
  · exact coherentWith_of_ofSeed hClamped hLast
  · simp only [outcome_fromSeed]
    exact hRemakes.changeAll_eq hMade times

end EncryptionSubkey

/-- Keys are always coherent. Whether a key was made or loaded, and whatever changes of its creation
time were tried, it is the key of its first secret at the last time for which there is one. Each change
succeeds or fails as if it was the only one, and a failure leaves all of the key as it was. -/
theorem coherentWith_changeAll (times : List Timestamp) :
    (∀ {seed : Octets 32} {key : SigningKey}, SigningKey.Origin seed key →
      (changeAll SigningKey.setCreated key times).2.CoherentWith seed ∧
        changeAll SigningKey.setCreated key times =
          (times.map fun time => (SigningKey.fromSeed seed time).outcome.map fun _ => (),
            (times.filterMap fun time =>
              (SigningKey.fromSeed seed time).outcome.toOption).getLast?.getD key)) ∧
    (∀ {secret : Octets 32} {key : EncryptionSubkey}, EncryptionSubkey.Origin secret key →
      (changeAll EncryptionSubkey.setCreated key times).2.CoherentWith secret ∧
        changeAll EncryptionSubkey.setCreated key times =
          (times.map fun time => (EncryptionSubkey.fromSeed secret time).outcome.map fun _ => (),
            (times.filterMap fun time =>
              (EncryptionSubkey.fromSeed secret time).outcome.toOption).getLast?.getD key)) := by
  constructor
  · intro seed key hOrigin
    exact SigningKey.changeAll_setCreated hOrigin times
  · intro secret key hOrigin
    exact EncryptionSubkey.changeAll_setCreated hOrigin times

/-- The keys of the seed of zeros, one of them made and the other loaded, are back at the epoch whatever
happens to them before. -/
theorem coherentWith_changeAll_zero :
    (SigningKey.fromSeed zeroSeed .epoch).outcome = .ok .zero ∧
    (changeAll SigningKey.setCreated .zero [⟨1⟩, .epoch]).2 = .zero ∧
    SigningKey.zero.CoherentWith zeroSeed ∧
    (EncryptionSubkey.read.run (.ofOctets EncryptionSubkey.zero.stored.framed)).1.outcome =
      .ok .zero ∧
    (changeAll EncryptionSubkey.setCreated .zero [⟨1⟩, .epoch]).2 = .zero ∧
    EncryptionSubkey.zero.CoherentWith (Curve25519.clamp zeroSeed) := by
  have hMade : (SigningKey.fromSeed zeroSeed .epoch).outcome = .ok .zero := by
    rw [SigningKey.outcome_fromSeed]
    exact SigningKey.zero.ofSeed_seed
  obtain ⟨hLoaded, -⟩ := EncryptionSubkey.zero.consumes_read
    (.ofOctets EncryptionSubkey.zero.stored.framed) [] (by simp)
  obtain ⟨hCoherent, -⟩ := (coherentWith_changeAll [⟨1⟩, .epoch]).1 (.made hMade)
  obtain ⟨hCoherentSubkey, -⟩ := (coherentWith_changeAll [⟨1⟩, .epoch]).2 (.loaded hLoaded)
  have hLast : (changeAll SigningKey.setCreated .zero [⟨1⟩, .epoch]).2 = .zero :=
    (SigningKey.remakes_setCreated zeroSeed).changeAll_concat SigningKey.zero.ofSeed_seed [⟨1⟩]
      SigningKey.zero.ofSeed_seed
  have hLastSubkey : (changeAll EncryptionSubkey.setCreated .zero [⟨1⟩, .epoch]).2 = .zero :=
    (EncryptionSubkey.remakes_setCreated EncryptionSubkey.zero.clamp_secret).changeAll_concat
      EncryptionSubkey.zero.ofSeed_secret [⟨1⟩] EncryptionSubkey.zero.ofSeed_secret
  rw [hLast] at hCoherent
  rw [hLastSubkey] at hCoherentSubkey
  exact ⟨hMade, hLast, hCoherent, hLoaded, hLastSubkey, hCoherentSubkey⟩

end PhraseKey
