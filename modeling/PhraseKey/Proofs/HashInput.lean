import PhraseKey.Proofs.KeyReading
import PhraseKey.Proofs.Verification
import PhraseKey.UserId

/-!
What is hashed for a signature tells what was signed. Nothing separates the parts of it, and the data
in front are arbitrary, so it is taken apart from the end: the trailer says where the hashed part
starts, the hashed part has the type and the statements, and only then is it known whether a key
stands in front.
-/

namespace PhraseKey

namespace Statement

theorem trailer_inj {length length' : Nat} (hFits : length < 2 ^ 32) (hFits' : length' < 2 ^ 32)
    (h : trailer length = trailer length') : length = length' := by
  simp only [trailer, List.cons.injEq, true_and] at h
  exact bigEndian_inj (by omega) (by omega) h

/-- The hashed part has the id of the type and the statements, also if the length of the area wraps. -/
theorem hashedPart_inj {first second : Statement} (h : first.hashedPart = second.hashedPart) :
    first.type.id = second.type.id ∧ first.hashed = second.hashed := by
  obtain ⟨hHead, hArea⟩ := List.append_inj h (by rw [length_head, length_head])
  simp only [head, List.cons.injEq, true_and] at hHead
  -- The length of the area may have wrapped, so it is not used.
  obtain ⟨-, hAll⟩ := List.append_inj hArea (by rw [length_bigEndian, length_bigEndian])
  exact ⟨hHead.1, Subpacket.encodeAll_injective hAll⟩

/-- What is hashed for some data tells the data and the statement, as far as it is signed. -/
theorem preimage_inj {first second : Statement} {data data' : List UInt8}
    (hShort : first.hashedLength < 2 ^ 32) (hShort' : second.hashedLength < 2 ^ 32)
    (h : first.preimage data = second.preimage data') :
    data = data' ∧ first.type.id = second.type.id ∧ first.hashed = second.hashed := by
  -- Only the trailer has a known length. It comes off first and gives that of the hashed part.
  obtain ⟨hFront, hTrailer⟩ := List.append_inj' h (by rw [length_trailer, length_trailer])
  rw [length_hashedPart, length_hashedPart] at hTrailer
  have hLength := trailer_inj hShort hShort' hTrailer
  obtain ⟨hData, hPart⟩ := List.append_inj' hFront (by
    rw [length_hashedPart, length_hashedPart, hLength])
  exact ⟨hData, hashedPart_inj hPart⟩

end Statement

/-- Keys on one curve have public parts of one length, so a key in front is told from what follows. -/
theorem PublicKey.preimage_inj {first second : PublicKey} {rest rest' : List UInt8}
    (hCurve : first.curve = second.curve)
    (h : first.preimage ++ rest = second.preimage ++ rest') : first = second ∧ rest = rest' := by
  have hLength : first.encodedLength = second.encodedLength := by
    rw [encodedLength_eq, encodedLength_eq, hCurve]
  have hEncoded : first.encode ++ rest = second.encode ++ rest' := by
    rw [preimage, preimage, hLength, List.append_assoc, List.append_assoc] at h
    exact List.append_cancel_left h
  have hRead := second.reads_encode
  rw [← hCurve] at hRead
  exact first.reads_encode.determines hRead hEncoded

theorem UserId.preimage_eq {userId : UserId} {data : List UInt8} (h : userId.preimage = .ok data) :
    data = 0xB4 :: bigEndian 4 userId.encodedLength ++ userId.id := by
  rw [preimage] at h
  split at h
  · cases h
    rfl
  · cases h

theorem UserId.preimage_inj {first second : UserId} {data : List UInt8}
    (h : first.preimage = .ok data) (h' : second.preimage = .ok data) : first.id = second.id := by
  have hEq := preimage_eq h
  rw [preimage_eq h'] at hEq
  exact (List.append_inj hEq (by simp)).2.symm

/-- Whether modification is detected is seen from the number of statements. -/
theorem UserId.subpackets_inj {first second : UserId} (h : first.subpackets = second.subpackets) :
    first.detectsModification = second.detectsModification := by
  rcases first with ⟨_, _ | _⟩ <;> rcases second with ⟨_, _ | _⟩
  · rfl
  · cases h
  · cases h
  · rfl

/-- A binding that is not refused before anything is hashed. -/
structure BindingCall where
  key : SigningKey
  target : BindingTarget
  created : Timestamp
  data : List UInt8
  isBinding : target.type.IsBinding
  preimage_eq : target.preimage = .ok data
  hashedLength_lt : (key.bindingStatement target created).hashedLength < 2 ^ 32

/-- A call that makes a signature. -/
inductive SigningCall where
  | document (key : SigningKey) (data : List UInt8)
  | binding (call : BindingCall)

namespace SigningCall

/-- The signature that the call comes back with. -/
def run : SigningCall → Except Error Signature
  | document key data => ((key.documentStatement.sign key.seed).run (.ofOctets data)).1.outcome
  | binding call => (call.key.bindingSignature call.target call.created).outcome

def key : SigningCall → SigningKey
  | document key _ => key
  | binding call => call.key

/-- All that the call hashes. -/
def hashInput : SigningCall → List UInt8
  | document key data => key.documentStatement.preimage data
  | binding call => (call.key.bindingStatement call.target call.created).preimage
      (call.key.publicKey.preimage ++ call.data)

/-- The signature is of the digest of what is hashed. -/
theorem run_isOf (call : SigningCall) : ∃ signature, call.run = .ok signature ∧
    signature.IsOf call.key.seed (Digest.Sha256.digest call.hashInput) := by
  cases call with
  | document key data =>
      have hRun := Statement.outcome_sign (show key.documentStatement.hash = .sha256 from rfl)
        key.seed (show (Source.ofOctets data).ending = .endOfData from rfl)
      rw [Source.octets_ofOctets] at hRun
      exact ⟨_, hRun, Statement.isOf_made key.documentStatement key.seed data⟩
  | binding call =>
      exact ⟨_, call.key.outcome_bindingSignature call.created call.isBinding call.preimage_eq,
        Statement.isOf_made _ call.key.seed _⟩

/-- The calls are of one kind and sign the same. Keys may differ in what is not hashed: a document
does not have the key, and a binding only its public part. -/
def SameSubject : SigningCall → SigningCall → Prop
  | document key data, document key' data' => data = data' ∧ key.created = key'.created
  | binding call, binding call' =>
      call.target.type = call'.target.type ∧
      call.key.publicKey.point = call'.key.publicKey.point ∧
      call.key.created = call'.key.created ∧
      call.created = call'.created ∧
      call.target.subpackets = call'.target.subpackets ∧
      call.data = call'.data
  | _, _ => False

theorem hashedLength_documentStatement_lt (key : SigningKey) :
    key.documentStatement.hashedLength < 2 ^ 32 :=
  show 12 < 2 ^ 32 by decide

/-- The type of a document signature is not that of a binding. -/
theorem document_ne_binding (key : SigningKey) (data : List UInt8) (call : BindingCall) :
    (document key data).hashInput ≠ (binding call).hashInput := by
  intro h
  obtain ⟨-, hType, -⟩ := Statement.preimage_inj (hashedLength_documentStatement_lt key)
    call.hashedLength_lt h
  have hBinding := call.isBinding
  change SignatureType.binary.id = call.target.type.id at hType
  rw [← hBinding.ofId_id, ← hType] at hBinding
  exact absurd hBinding (by decide)

theorem sameSubject_of_hashInput_eq {first second : SigningCall}
    (h : first.hashInput = second.hashInput) : first.SameSubject second := by
  cases first with
  | document key data =>
      cases second with
      | document key' data' =>
          obtain ⟨hData, -, hHashed⟩ := Statement.preimage_inj
            (hashedLength_documentStatement_lt key) (hashedLength_documentStatement_lt key') h
          simp only [SigningKey.documentStatement, Statement.standard, List.cons.injEq,
            Subpacket.creationTime.injEq, and_true] at hHashed
          exact ⟨hData, hHashed⟩
      | binding call => exact document_ne_binding key data call h
  | binding call =>
      cases second with
      | document key' data' => exact document_ne_binding key' data' call h.symm
      | binding call' =>
          obtain ⟨hData, hType, hHashed⟩ := Statement.preimage_inj call.hashedLength_lt
            call'.hashedLength_lt h
          obtain ⟨hKey, hTarget⟩ := PublicKey.preimage_inj
            (call.key.curve_eq.trans call'.key.curve_eq.symm) hData
          simp only [SigningKey.bindingStatement, Statement.standard, List.cons.injEq,
            Subpacket.creationTime.injEq] at hHashed
          have hSame : call.target.type = call'.target.type := by
            rw [← call.isBinding.ofId_id, ← call'.isBinding.ofId_id]
            exact congrArg SignatureType.ofId hType
          exact ⟨hSame, congrArg PublicKey.point hKey, congrArg PublicKey.created hKey, hHashed.1,
            hHashed.2, hTarget⟩

end SigningCall

/-- What the primary key of a certificate binds. -/
inductive CertificateTarget where
  | userId (userId : UserId)
  | subkey (subkey : EncryptionSubkey)

namespace CertificateTarget

def bindingTarget : CertificateTarget → BindingTarget
  | .userId target => target.bindingTarget
  | .subkey target => target.bindingTarget

/-- Targets of one kind with the same contents. The secret of a subkey is not among them. -/
def SameTarget : CertificateTarget → CertificateTarget → Prop
  | .userId first, .userId second =>
      first.id = second.id ∧ first.detectsModification = second.detectsModification
  | .subkey first, .subkey second =>
      first.publicKey.point = second.publicKey.point ∧ first.created = second.created
  | _, _ => False

theorem certPositive_ne_subkeyBinding :
    SignatureType.certPositive ≠ SignatureType.subkeyBinding := by
  decide

/-- A target is known from its type, its statements and its octets. -/
theorem sameTarget_of_eq {first second : CertificateTarget} {data : List UInt8}
    (hType : first.bindingTarget.type = second.bindingTarget.type)
    (hSubpackets : first.bindingTarget.subpackets = second.bindingTarget.subpackets)
    (hFirst : first.bindingTarget.preimage = .ok data)
    (hSecond : second.bindingTarget.preimage = .ok data) : first.SameTarget second := by
  cases first with
  | userId first =>
      cases second with
      | userId second =>
          exact ⟨UserId.preimage_inj hFirst hSecond, UserId.subpackets_inj hSubpackets⟩
      | subkey second => exact absurd hType certPositive_ne_subkeyBinding
  | subkey first =>
      cases second with
      | userId second => exact absurd hType.symm certPositive_ne_subkeyBinding
      | subkey second =>
          have hPreimage : first.publicKey.preimage = second.publicKey.preimage :=
            Except.ok.inj (hFirst.trans hSecond.symm)
          obtain ⟨hKey, -⟩ := PublicKey.preimage_inj
            (first.curve_eq.trans second.curve_eq.symm) (congrArg (· ++ []) hPreimage)
          exact ⟨congrArg PublicKey.point hKey, congrArg PublicKey.created hKey⟩

end CertificateTarget

/-- What is hashed for a signature is unambiguous. The signature of every call is of the digest of its
hash input, calls with one hash input sign the same, no binding hashes what a document does, and the
targets of a certificate are told apart by what is hashed for them. -/
theorem SigningCall.hashInput_determines :
    (∀ call : SigningCall, ∃ signature, call.run = .ok signature ∧
      signature.IsOf call.key.seed (Digest.Sha256.digest call.hashInput)) ∧
    (∀ first second : SigningCall, first.hashInput = second.hashInput → first.SameSubject second) ∧
    (∀ key data call, (document key data).hashInput ≠ (binding call).hashInput) ∧
    (∀ (first second : BindingCall) (target target' : CertificateTarget),
      first.target = target.bindingTarget → second.target = target'.bindingTarget →
        (binding first).hashInput = (binding second).hashInput → target.SameTarget target') := by
  refine ⟨run_isOf, fun _ _ => sameSubject_of_hashInput_eq, document_ne_binding, ?_⟩
  intro first second target target' hTarget hTarget' hInput
  obtain ⟨hType, -, -, -, hSubpackets, hData⟩ := sameSubject_of_hashInput_eq hInput
  have hFirst := first.preimage_eq
  have hSecond := second.preimage_eq
  rw [← hData] at hSecond
  rw [hTarget] at hType hSubpackets hFirst
  rw [hTarget'] at hType hSubpackets hSecond
  exact CertificateTarget.sameTarget_of_eq hType hSubpackets hFirst hSecond

/-- The certification of a user id by the key of the seed of zeros. -/
def BindingCall.zero : BindingCall where
  key := .zero
  target := UserId.bindingTarget ⟨[0x61], true⟩
  created := .epoch
  data := [0xB4, 0x00, 0x00, 0x00, 0x01, 0x61]
  isBinding := SignatureType.isBinding_certPositive
  preimage_eq := rfl
  hashedLength_lt := show 18 < 2 ^ 32 by decide

/-- A document that consists of all that is hashed for a certification is signed as something else. -/
theorem SigningCall.hashInput_determines_zero :
    (∃ signature, (binding .zero).run = .ok signature ∧ signature.IsOf zeroSeed
      (Digest.Sha256.digest (binding .zero).hashInput)) ∧
    (binding .zero).SameSubject (binding .zero) ∧
    (document .zero (binding .zero).hashInput).hashInput ≠ (binding .zero).hashInput ∧
    CertificateTarget.SameTarget (.userId ⟨[0x61], true⟩) (.userId ⟨[0x61], true⟩) := by
  obtain ⟨hRun, hSame, hApart, hTarget⟩ := hashInput_determines
  exact ⟨hRun (binding .zero), hSame (binding .zero) (binding .zero) rfl,
    hApart .zero (binding .zero).hashInput .zero, hTarget .zero .zero _ _ rfl rfl rfl⟩

end PhraseKey
