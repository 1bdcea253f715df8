import PhraseKey.Proofs.EmissionLogs
import PhraseKey.Proofs.InputArrival
import PhraseKey.Proofs.KeyOfPassphrase
import PhraseKey.Proofs.SignatureFraming

/-!
Secrets and the log. A session generates a certificate and asks it for packets and signatures. Its log can
be told from what is public about it, so it is the same for all passphrases, seeds and secret keys with the
same public values.
-/

namespace PhraseKey

/-- The line about parameters whose keys are to be derived. -/
def KeyParams.announcement (userId : String) (difficulty : UInt32) : LogEntry :=
  ⟨.debug, "deriving key for " ++ Text.quoted userId ++ " at difficulty " ++
    toString difficulty.toNat⟩

/-- The line about the cost of a derivation. -/
def Argon2.Cost.announcement (cost : Cost) : LogEntry :=
  ⟨.debug, "argon2id: t_cost=" ++ toString cost.passes.toNat ++ " m_cost=" ++
    toString cost.memory.toNat ++ "KiB p_cost=1"⟩

/-- The cost is all that is logged about a seed. -/
theorem Seed.log_derive {cost : Argon2.Cost} {passphrase identity : List UInt8} {difficulty : UInt32}
    {seed : Seed} (h : (derive cost passphrase identity difficulty).outcome = .ok seed) :
    (derive cost passphrase identity difficulty).log =
      (cost.scale? difficulty).toList.map Argon2.Cost.announcement := by
  obtain ⟨hNonzero, scaled, hScale, -, hDerived⟩ := exists_of_outcome_eq_ok h
  rw [derive, if_neg hNonzero, hScale]
  dsimp only
  rw [hDerived]
  rfl

/-- The line about a key with a fingerprint. -/
def PublicKey.announcement (kind : String) (key : PublicKey) : List LogEntry :=
  match key.fingerprint with
  | .ok fingerprint => [⟨.debug, kind ++ hexUpper fingerprint.octets.toList⟩]
  | .error _ => []

theorem PublicKey.announcement_eq {key : PublicKey} {fingerprint : Fingerprint}
    (h : key.fingerprint = .ok fingerprint) (kind : String) :
    key.announcement kind = [⟨.debug, kind ++ hexUpper fingerprint.octets.toList⟩] := by
  rw [announcement, h]

/-- The fingerprint is all that is logged about a key. -/
theorem SigningKey.log_fromSeed {seed : Octets 32} {created : Timestamp} {key : SigningKey}
    (h : ofSeed seed created = .ok key) :
    (fromSeed seed created).log = key.publicKey.announcement "signing key " := by
  rw [fromSeed, h, PublicKey.announcement_eq key.fingerprint_eq]
  rfl

theorem EncryptionSubkey.log_fromSeed {seed : Octets 32} {created : Timestamp}
    {key : EncryptionSubkey} (h : ofSeed seed created = .ok key) :
    (fromSeed seed created).log = key.publicKey.announcement "encryption subkey " := by
  rw [fromSeed, h, PublicKey.announcement_eq key.fingerprint_eq]
  rfl

/-- The keys are all that is logged behind the derivation. -/
theorem KeyParams.Makes.log_ofSeed {params : KeyParams} {seed : Seed} {certificate : Certificate}
    (h : params.Makes seed certificate) :
    (params.ofSeed seed).log = certificate.key.publicKey.announcement "signing key " ++
      (certificate.subkey.map EncryptionSubkey.publicKey).toList.flatMap
        (PublicKey.announcement "encryption subkey ") := by
  cases h with
  | alone unwanted key_eq =>
      rw [ofSeed, Logged.log_bind_of_ok ((SigningKey.outcome_fromSeed _ _).trans key_eq),
        SigningKey.log_fromSeed key_eq, if_neg unwanted]
      rfl
  | withSubkey wanted key_eq subkey_eq =>
      rw [ofSeed, Logged.log_bind_of_ok ((SigningKey.outcome_fromSeed _ _).trans key_eq),
        SigningKey.log_fromSeed key_eq, if_pos wanted, Logged.log_bind_pure,
        EncryptionSubkey.log_fromSeed subkey_eq, Option.map_some, Option.toList_some,
        List.flatMap_singleton]

theorem KeyParams.log_generate (params : KeyParams) :
    params.generate.log = [announcement params.userId params.difficulty] ++
      (Seed.derive params.cost params.passphrase (Text.toUtf8 params.userId) params.difficulty >>=
        params.ofSeed).log := by
  rw [generate_eq]
  exact Logged.log_bind_of_ok rfl _

/-- The line about a signature, from its packet. -/
def Signature.creationOf (packet : List UInt8) : List LogEntry :=
  match decode (packet.drop 2) with
  | .ok signature => [signature.creation]
  | .error _ => []

theorem Signature.creationOf_framed {signature : Signature} (hLength : signature.encodedLength ≤ 255)
    (hRead : signature.asRead = signature) :
    creationOf (Packet.framed ⟨.signature, signature.encode⟩) = [signature.creation] := by
  have hBody : (Packet.framed ⟨.signature, signature.encode⟩).drop 2 = signature.encode := by
    rw [Packet.framed_signature]
    rfl
  rw [creationOf, hBody, decode_encode (Fits.of_encodedLength_le hLength), hRead]

/-- A document that cannot be read is not logged about. -/
theorem SigningKey.log_sign_of_failed (key : SigningKey) {source : Source} {failure : Failure}
    (hEnding : source.ending = .failed failure) : (key.sign.run source).1.log = [] := by
  rw [sign, Reading.log_bind_of_error (Statement.outcome_sign_of_failed rfl key.seed hEnding),
    key.log_sign_documentStatement]

/-- What a certificate is asked for. A document is signed as its source delivers it. -/
inductive Request where
  | publicBytes
  | secretBytes
  | keyFile
  | signature (document : Source)

namespace Request

def answer (certificate : Certificate) : Request → Logged (List UInt8)
  | publicBytes => certificate.publicBytes
  | secretBytes => certificate.secretBytes
  | keyFile => certificate.keyFile
  | signature document => (certificate.sign.run document).1

/-- What is public about a request: what was asked for, and the packet of a signature. -/
inductive View where
  | publicBytes
  | secretBytes
  | keyFile
  | signature (outcome : Except Error (List UInt8))

def view (certificate : Certificate) : Request → View
  | publicBytes => .publicBytes
  | secretBytes => .secretBytes
  | keyFile => .keyFile
  | signature document => .signature (certificate.sign.run document).1.outcome

end Request

/-- A certificate that was generated, and what it is asked for, one after another. -/
structure Session where
  params : KeyParams
  certificate : Certificate
  generated : params.generate.outcome = .ok certificate
  requests : List Request

/-- What is public about a session. There is no passphrase in it, no seed and no secret key. The creation
time is in the public keys, and what the user id advertises does not matter. -/
structure PublicView where
  userId : String
  difficulty : UInt32
  cost : Argon2.Cost
  key : PublicKey
  subkey : Option PublicKey
  requests : List Request.View

namespace PublicView

/-- The lines about the certificate that is generated. -/
def generation (view : PublicView) : List LogEntry :=
  [KeyParams.announcement view.userId view.difficulty] ++
    ((view.cost.scale? view.difficulty).toList.map Argon2.Cost.announcement ++
      (view.key.announcement "signing key " ++
        view.subkey.toList.flatMap (PublicKey.announcement "encryption subkey ")))

/-- The lines about the packet of the user id. -/
def userIdPacket (view : PublicView) : List LogEntry :=
  (Packet.encode .userId (Text.toUtf8 view.userId)).log

/-- The lines about the bindings, with those about the packet of a subkey. -/
def bindings (view : PublicView) (subkeyPacket : List LogEntry) : List LogEntry :=
  view.userIdPacket ++
    if (Text.toUtf8 view.userId).length ≤ 255 then
      SignatureType.certPositive.signing ::
        if view.subkey.isSome then subkeyPacket ++ [SignatureType.subkeyBinding.signing] else []
    else []

/-- The lines about a request. -/
def answer (view : PublicView) : Request.View → List LogEntry
  | .publicBytes => view.bindings []
  | .secretBytes => SecretKey.emission :: view.bindings [SecretKey.emission]
  | .keyFile => SecretKey.emission :: view.userIdPacket
  | .signature (.ok packet) => Signature.creationOf packet
  | .signature (.error _) => []

/-- All lines, one after another. -/
def lines (view : PublicView) : List LogEntry :=
  view.generation ++ view.requests.flatMap view.answer

end PublicView

namespace Session

def log (session : Session) : List LogEntry :=
  session.params.generate.log ++
    session.requests.flatMap fun request => (request.answer session.certificate).log

def view (session : Session) : PublicView where
  userId := session.params.userId
  difficulty := session.params.difficulty
  cost := session.params.cost
  key := session.certificate.key.publicKey
  subkey := session.certificate.subkey.map EncryptionSubkey.publicKey
  requests := session.requests.map (Request.view session.certificate)

theorem userId_eq (session : Session) :
    session.certificate.userId = session.params.certifiedUserId := by
  obtain ⟨_, -, hMakes⟩ := KeyParams.outcome_generate_eq_ok_iff.mp session.generated
  exact hMakes.userId_eq

/-- The lines about the generation can be told from the public values. -/
theorem log_generate (session : Session) :
    session.params.generate.log = session.view.generation := by
  obtain ⟨seed, hSeed, hMakes⟩ := KeyParams.outcome_generate_eq_ok_iff.mp session.generated
  rw [KeyParams.log_generate, Logged.log_bind_of_ok hSeed, Seed.log_derive hSeed,
    hMakes.log_ofSeed]
  rfl

theorem userIdPacket_view (session : Session) :
    session.view.userIdPacket = session.certificate.userId.packet.log := by
  rw [session.userId_eq]
  rfl

theorem bindings_view (session : Session) (subkeyPacket : List LogEntry) :
    session.view.bindings subkeyPacket = session.certificate.bindingEntries subkeyPacket := by
  have hSubkey : session.view.subkey.isSome = session.certificate.subkey.isSome := Option.isSome_map
  rw [Certificate.bindingEntries, PublicView.bindings, hSubkey, session.userIdPacket_view,
    session.userId_eq]
  rfl

/-- The lines about a single request can be told from the public values. -/
theorem log_answer (session : Session) (request : Request) :
    (request.answer session.certificate).log =
      session.view.answer (request.view session.certificate) := by
  cases request with
  | publicBytes =>
      rw [Request.view, PublicView.answer, session.bindings_view]
      exact session.certificate.log_publicBytes
  | secretBytes =>
      rw [Request.view, PublicView.answer, session.bindings_view]
      exact session.certificate.log_secretBytes
  | keyFile =>
      rw [Request.view, PublicView.answer, session.userIdPacket_view]
      exact session.certificate.log_keyFile
  | signature document =>
      rw [Request.view, Request.answer, Certificate.sign]
      -- The line is told from the packet if there is one, and there is no line without a packet.
      cases hEnding : document.ending with
      | endOfData =>
          have hLength := session.certificate.key.encodedLength_signed_le document.octets
          rw [SigningKey.outcome_sign _ hEnding, SigningKey.log_sign _ hEnding, PublicView.answer,
            Signature.creationOf_framed (Nat.le_trans hLength (by decide))
              (SigningKey.asRead_signed _ _)]
      | failed failure =>
          rw [SigningKey.outcome_sign_of_failed _ hEnding, SigningKey.log_sign_of_failed _ hEnding,
            PublicView.answer]

/-- The lines about any requests can be told from the public values, by induction on the requests. -/
theorem log_answers (session : Session) (requests : List Request) :
    (requests.flatMap fun request => (request.answer session.certificate).log) =
      (requests.map (Request.view session.certificate)).flatMap session.view.answer := by
  induction requests with
  | nil => rfl
  | cons request rest ih => rw [List.flatMap_cons, List.map_cons, List.flatMap_cons, log_answer, ih]

/-- The log is that of the public values. -/
theorem log_eq_lines (session : Session) : session.log = session.view.lines := by
  rw [log, session.log_generate, session.log_answers]
  rfl

/-- Logs reveal no secrets. Every line of a session is told from the text of the user id, the difficulty,
the costs, the public keys and the packets of its signatures, so two sessions that agree in these have
the same log, whatever their passphrases, seeds and secret keys are. A secret that is written out adds one
line, which is the same for all secrets. -/
theorem log_reveals_nothing :
    (∀ session : Session, session.log = session.view.lines) ∧
    (∀ first second : Session, first.view = second.view → first.log = second.log) ∧
    (∀ key : SigningKey, key.secretPacket.log = [SecretKey.emission]) ∧
    (∀ subkey : EncryptionSubkey, subkey.secretPacket.log = [SecretKey.emission]) := by
  refine ⟨log_eq_lines, ?_, SigningKey.log_secretPacket, EncryptionSubkey.log_secretPacket⟩
  intro first second hView
  rw [first.log_eq_lines, second.log_eq_lines, hView]

/-- The certificate of the cheapest parameters, asked for all there is. -/
def cheapest (document : Source) : Session :=
  ⟨.cheapest, .cheapest, KeyParams.outcome_generate_cheapest,
    [.publicBytes, .secretBytes, .keyFile, .signature document]⟩

theorem view_cheapest_congr {first second : Source} (hSame : first.SameInput second) :
    (cheapest first).view = (cheapest second).view := by
  have hLogged := SigningKey.cheapest.uniform_sign.logged_eq hSame
  have hView : Request.view .cheapest (.signature first) = Request.view .cheapest (.signature second) :=
    congrArg (fun logged : Logged (List UInt8) => Request.View.signature logged.outcome) hLogged
  change PublicView.mk _ _ _ _ _ [_, _, _, Request.view .cheapest (.signature first)] = _
  rw [hView]
  rfl

/-- A document that arrives at once, and one octet at a time. -/
theorem log_reveals_nothing_cheapest :
    (cheapest (.oneByOne [0x61, 0x62] .endOfData)).view = (cheapest (.ofOctets [0x61, 0x62])).view ∧
    (cheapest (.oneByOne [0x61, 0x62] .endOfData)).log =
      (cheapest (.ofOctets [0x61, 0x62])).log := by
  have hSame : (Source.oneByOne [0x61, 0x62] .endOfData).SameInput (.ofOctets [0x61, 0x62]) :=
    ⟨by rw [Source.octets_oneByOne, Source.octets_ofOctets], rfl⟩
  have hView := view_cheapest_congr hSame
  exact ⟨hView, log_reveals_nothing.2.1 _ _ hView⟩

end Session

end PhraseKey
