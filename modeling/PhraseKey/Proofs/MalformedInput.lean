import PhraseKey.Certificate
import PhraseKey.Proofs.GuardedFields
import PhraseKey.Proofs.GuardedLines
import PhraseKey.Proofs.KeyLoading
import PhraseKey.Proofs.PacketStreams

/-!
Malformed input. Everything that is read can be read in steps that would be traps on other octets, and
none of them is one on any octets. What is refused is an error of the format, except that the
fingerprint of a key that is loaded may be a collision.
-/

namespace PhraseKey

open Steps

namespace PacketHeader

def parseSteps : Steps (List UInt8) PacketHeader := do
  let first ← u8 "packet header"
  let length ← u8 "packet length"
  ofOutcome (ofOctets first length)

theorem does_parseSteps : parseSteps.Does PacketHeader.parse.parse := by
  apply (does_u8 _).bind
  intro _ first _ _
  apply (does_u8 _).bind
  intro _ length _ _
  exact does_ofOutcome _

end PacketHeader

namespace Packet

def parseSteps : Steps (List UInt8) Packet := do
  let header ← PacketHeader.parseSteps
  let body ← take "packet body" header.length.toNat
  return ⟨header.tag, body⟩

theorem does_parseSteps : parseSteps.Does Packet.parse.parse := by
  apply PacketHeader.does_parseSteps.bind
  intro _ header _ _
  apply (does_take _ _).bind
  intro _ body _ _
  exact does_pure _

/-- What splitting a packet off comes to and what it leaves, without the log. -/
def splitOff (octets : List UInt8) : Except Error Packet × List UInt8 :=
  ((decode octets).1.outcome, (decode octets).2)

theorem does_splitOff : parseSteps.Does splitOff := by
  intro octets
  obtain ⟨hOutcome, hLeft⟩ := decode_eq_parse octets
  rw [splitOff, hOutcome, hLeft]
  exact does_parseSteps octets

def readHeaderSteps : Steps Source PacketHeader := do
  let octets ← ofFunction (readOctets 2).result
  let first ← step (Trap.index octets.toList 0)
  let length ← step (Trap.index octets.toList 1)
  ofOutcome (PacketHeader.ofOctets first length)

def readSteps : Steps Source Packet := do
  let header ← readHeaderSteps
  let body ← ofFunction (readOctets header.length.toNat).result
  return ⟨header.tag, body.toList⟩

def readTaggedSteps (expected : Tag) : Steps Source (List UInt8) := do
  let packet ← readSteps
  ensure (packet.tag = expected) (.unexpectedPacket expected packet.tag)
  return packet.body

theorem does_readHeaderSteps : readHeaderSteps.Does readHeader.result := by
  apply (does_ofFunction _).bind_reading
  intro octets
  match octets with
  | ⟨[first, length], _⟩ =>
      apply Does.step_bind (Trap.index_cons_zero first [length])
      apply Does.step_bind (rfl : Trap.index [first, length] 1 = .ok length)
      exact does_ofLogged rfl

theorem does_readSteps : readSteps.Does Packet.read.result := by
  apply does_readHeaderSteps.bind_reading
  intro header
  apply (does_ofFunction _).bind_reading
  intro body
  exact Does.after_logged rfl (does_pure_reading _)

theorem does_readTaggedSteps (expected : Tag) :
    (readTaggedSteps expected).Does (readTagged expected).result := by
  apply does_readSteps.bind_reading
  intro packet
  apply (does_ensure_reading _ _).bind_reading
  intro _
  exact does_pure_reading _

theorem failsAsFormat_readTagged (expected : Tag) : (readTagged expected).FailsAsFormat := by
  apply failsAsFormat_read.bind
  intro packet
  have hRefused : (Error.unexpectedPacket expected packet.tag).kind = .format := rfl
  apply (Reading.failsOnlyWith_ensure hRefused).bind
  intro _
  exact Reading.failsOnlyWith_pure _

theorem kind_of_splitOff_eq_error {octets : List UInt8} {error : Error}
    (h : (splitOff octets).1 = .error error) : error.kind = .format := by
  rw [splitOff, (decode_eq_parse octets).1] at h
  exact failsAsFormat_parse octets error h

end Packet

theorem Mpi.kind_of_padded_eq_error {mpi : Mpi} {n : Nat} {error : Error}
    (h : mpi.padded n = .error error) : error.kind = .format := by
  rw [padded] at h
  split at h
  · cases h
  · cases h
    rfl

namespace SecretKey

/-- The key in the next packet of a source, with its secret in its full size. -/
def readStored (tag : Tag) (curve : Curve) : Reading (SecretKey × Octets 32) := do
  let body ← Packet.readTagged tag
  let stored ← decode curve body
  let secret ← stored.secret.padded 32
  return (stored, secret)

def readStoredSteps (tag : Tag) (curve : Curve) : Steps Source (SecretKey × Octets 32) := do
  let body ← Packet.readTaggedSteps tag
  let stored ← onBuffer body (parseSteps curve)
  let secret ← stored.secret.paddedSteps 32
  return (stored, secret)

theorem does_readStoredSteps (tag : Tag) (curve : Curve) :
    (readStoredSteps tag curve).Does (readStored tag curve).result := by
  apply (Packet.does_readTaggedSteps _).bind_reading
  intro body
  have hDecode : (onBuffer body (parseSteps curve) : Steps Source SecretKey).Does
      (Reading.ofLogged (.ofExcept (decode curve body))).result :=
    (does_parseSteps curve).onBuffer body
  apply hDecode.bind_reading
  intro stored
  have hPadded : (stored.secret.paddedSteps 32 : Steps Source (Octets 32)).Does
      (Reading.ofLogged (.ofExcept (stored.secret.padded 32))).result :=
    Mpi.does_paddedSteps stored.secret 32
  apply hPadded.bind_reading
  intro secret
  exact does_pure_reading _

theorem failsAsFormat_readStored (tag : Tag) (curve : Curve) :
    (readStored tag curve).FailsAsFormat := by
  apply (Packet.failsAsFormat_readTagged _).bind
  intro body
  apply (Reading.failsOnlyWith_ofExcept fun _ => kind_of_decode_eq_error).bind
  intro stored
  apply (Reading.failsOnlyWith_ofExcept fun _ => Mpi.kind_of_padded_eq_error).bind
  intro secret
  exact Reading.failsOnlyWith_pure _

end SecretKey

/-- Why a key is refused: for its format, or for the collision that its fingerprint would be. -/
def Error.RefusesKey (error : Error) : Prop :=
  error.kind = .format ∨ error = .sha1Collision ∧ error.kind = .crypto

theorem Error.refusesKey_of_eq {error : Error} (h : error = .sha1Collision) : error.RefusesKey := by
  subst h
  exact .inr ⟨rfl, rfl⟩

theorem Reading.FailsAsFormat.refusesKey {α : Type} {reading : Reading α}
    (h : reading.FailsAsFormat) : reading.FailsOnlyWith Error.RefusesKey :=
  h.imp fun _ hKind => .inl hKind

namespace SigningKey

/-- The preimage of the fingerprint is made in steps. -/
def readSteps : Steps Source SigningKey := do
  let (stored, seed) ← SecretKey.readStoredSteps .secretKey .ed25519
  let publicKey : PublicKey := ⟨stored.publicKey.created, .ed25519, Ed25519.publicKey seed⟩
  let _ ← step publicKey.preimageSteps
  let key ← ofOutcome (ofSeed seed stored.publicKey.created)
  ensure (key.publicKey = stored.publicKey) .differingPublicKey
  return key

theorem read_eq :
    read = (do
      let (stored, seed) ← SecretKey.readStored .secretKey .ed25519
      let key ← fromSeed seed stored.publicKey.created
      Reading.ensure (key.publicKey = stored.publicKey) .differingPublicKey
      return key) := by
  simp [read, SecretKey.readStored]

theorem does_readSteps : readSteps.Does read.result := by
  rw [read_eq]
  apply (SecretKey.does_readStoredSteps _ _).bind_reading
  intro (stored, seed)
  apply Does.step_bind (PublicKey.preimageSteps_eq _)
  apply (does_ofLogged (outcome_fromSeed _ _)).bind_reading
  intro key
  apply (does_ensure_reading _ _).bind_reading
  intro _
  exact does_pure_reading _

theorem failsOnlyWith_fromSeed (seed : Octets 32) (created : Timestamp) :
    (Reading.ofLogged (fromSeed seed created)).FailsOnlyWith Error.RefusesKey := by
  apply Reading.failsOnlyWith_ofLogged
  intro error h
  rw [outcome_fromSeed] at h
  exact Error.refusesKey_of_eq (eq_of_ofSeed_eq_error h)

theorem failsOnlyWith_read : read.FailsOnlyWith Error.RefusesKey := by
  rw [read_eq]
  apply (SecretKey.failsAsFormat_readStored _ _).refusesKey.bind
  intro (stored, seed)
  apply (failsOnlyWith_fromSeed _ _).bind
  intro key
  have hRefused : Error.differingPublicKey.RefusesKey := .inl rfl
  apply (Reading.failsOnlyWith_ensure hRefused).bind
  intro _
  exact Reading.failsOnlyWith_pure _

end SigningKey

namespace EncryptionSubkey

def readSteps : Steps Source EncryptionSubkey := do
  let (stored, secret) ← SecretKey.readStoredSteps .secretSubkey .curve25519
  let clamped := Curve25519.clamp secret.reverse
  let publicKey : PublicKey := ⟨stored.publicKey.created, .curve25519, X25519.publicKey clamped⟩
  let _ ← step publicKey.preimageSteps
  let key ← ofOutcome (ofSeed secret.reverse stored.publicKey.created)
  ensure (key.publicKey = stored.publicKey) .differingPublicKey
  return key

theorem read_eq :
    read = (do
      let (stored, secret) ← SecretKey.readStored .secretSubkey .curve25519
      Logged.debug "X25519 secret restored from mpi"
      let key ← fromSeed secret.reverse stored.publicKey.created
      Reading.ensure (key.publicKey = stored.publicKey) .differingPublicKey
      return key) := by
  simp [read, SecretKey.readStored]

theorem does_readSteps : readSteps.Does read.result := by
  rw [read_eq]
  apply (SecretKey.does_readStoredSteps _ _).bind_reading
  intro (stored, secret)
  apply Does.step_bind (PublicKey.preimageSteps_eq _)
  apply Does.after_logged rfl
  apply (does_ofLogged (outcome_fromSeed _ _)).bind_reading
  intro key
  apply (does_ensure_reading _ _).bind_reading
  intro _
  exact does_pure_reading _

theorem failsOnlyWith_fromSeed (seed : Octets 32) (created : Timestamp) :
    (Reading.ofLogged (fromSeed seed created)).FailsOnlyWith Error.RefusesKey := by
  apply Reading.failsOnlyWith_ofLogged
  intro error h
  rw [outcome_fromSeed] at h
  exact Error.refusesKey_of_eq (eq_of_ofSeed_eq_error h)

theorem failsOnlyWith_read : read.FailsOnlyWith Error.RefusesKey := by
  rw [read_eq]
  apply (SecretKey.failsAsFormat_readStored _ _).refusesKey.bind
  intro (stored, secret)
  apply (Reading.failsOnlyWith_of_ok rfl).bind
  intro _
  apply (failsOnlyWith_fromSeed _ _).bind
  intro key
  have hRefused : Error.differingPublicKey.RefusesKey := .inl rfl
  apply (Reading.failsOnlyWith_ensure hRefused).bind
  intro _
  exact Reading.failsOnlyWith_pure _

end EncryptionSubkey

namespace UserId

def readSteps : Steps Source UserId := do
  let id ← Packet.readTaggedSteps .userId
  return .plain id

theorem does_readSteps : readSteps.Does read.result := by
  apply (Packet.does_readTaggedSteps _).bind_reading
  intro id
  exact does_pure_reading _

theorem failsAsFormat_read : read.FailsAsFormat := by
  apply (Packet.failsAsFormat_readTagged _).bind
  intro id
  exact Reading.failsOnlyWith_pure _

end UserId

namespace Certificate

def readKeyFileSteps : Steps Source Certificate := do
  let key ← SigningKey.readSteps
  let userId ← UserId.readSteps
  return ⟨key, userId, none⟩

theorem does_readKeyFileSteps : readKeyFileSteps.Does readKeyFile.result := by
  apply SigningKey.does_readSteps.bind_reading
  intro key
  apply UserId.does_readSteps.bind_reading
  intro userId
  exact Does.after_logged rfl (does_pure_reading _)

theorem failsOnlyWith_readKeyFile : readKeyFile.FailsOnlyWith Error.RefusesKey := by
  apply SigningKey.failsOnlyWith_read.bind
  intro key
  apply UserId.failsAsFormat_read.refusesKey.bind
  intro userId
  apply (Reading.failsOnlyWith_of_ok rfl).bind
  intro _
  exact Reading.failsOnlyWith_pure _

end Certificate

namespace Steps

variable {σ α : Type}

/-- The steps end without a trap in what the function comes to, and if that is an error it is one of
these. -/
structure Ends (steps : Steps σ α) (function : σ → Except Error α × σ) (allowed : Error → Prop)
    (state : σ) : Prop where
  walk_eq : steps.walk state = .ok (function state)
  allowed_of_error : ∀ error, (function state).1 = .error error → allowed error

theorem Does.ends_parse {steps : Steps (List UInt8) α} {parser : Parser α}
    (hSteps : steps.Does parser.parse) (hKind : parser.FailsAsFormat) (octets : List UInt8) :
    steps.Ends parser.parse (fun error => error.kind = .format) octets :=
  ⟨hSteps octets, hKind octets⟩

theorem Does.ends_result {steps : Steps Source α} {reading : Reading α} {allowed : Error → Prop}
    (hSteps : steps.Does reading.result) (hFails : reading.FailsOnlyWith allowed)
    (deliveries : List Delivery) : steps.Ends reading.result allowed ⟨deliveries, .endOfData⟩ :=
  ⟨hSteps _, (hFails _ rfl).2⟩

end Steps

/-- Malformed input is refused as such, and never is a trap. On any octets, in whatever pieces a source
delivers them before it ends for good, every step of a reading is defined: nothing is taken from a
buffer that is too short, no index and no slice lies outside, what is copied has the size of its place,
and no number is too large for its type. What the steps come to is what the readings do: a value, or an
error of the format. Only a key may be refused for another reason, which is that its fingerprint would
be a collision. -/
theorem ends_of_octets (octets : List UInt8) (deliveries : List Delivery) :
    PacketHeader.parseSteps.Ends PacketHeader.parse.parse (fun error => error.kind = .format) octets ∧
    Packet.parseSteps.Ends Packet.splitOff (fun error => error.kind = .format) octets ∧
    Packet.readSteps.Ends Packet.read.result (fun error => error.kind = .format)
      ⟨deliveries, .endOfData⟩ ∧
    Mpi.parseSteps.Ends Mpi.parse.parse (fun error => error.kind = .format) octets ∧
    SigningKey.readSteps.Ends SigningKey.read.result Error.RefusesKey ⟨deliveries, .endOfData⟩ ∧
    EncryptionSubkey.readSteps.Ends EncryptionSubkey.read.result Error.RefusesKey
      ⟨deliveries, .endOfData⟩ ∧
    UserId.readSteps.Ends UserId.read.result (fun error => error.kind = .format)
      ⟨deliveries, .endOfData⟩ ∧
    Certificate.readKeyFileSteps.Ends Certificate.readKeyFile.result Error.RefusesKey
      ⟨deliveries, .endOfData⟩ ∧
    Armor.readSteps.Ends (fun text => ((Armor.read text).outcome, text))
      (fun error => error.kind = .format) octets := by
  have hHeader := PacketHeader.does_parseSteps.ends_parse PacketHeader.failsAsFormat_parse octets
  have hSplit : Packet.parseSteps.Ends Packet.splitOff (fun error => error.kind = .format) octets :=
    ⟨Packet.does_splitOff octets, fun _ => Packet.kind_of_splitOff_eq_error⟩
  have hRead := Packet.does_readSteps.ends_result Packet.failsAsFormat_read deliveries
  have hMpi := Mpi.does_parseSteps.ends_parse Mpi.failsAsFormat_parse octets
  have hKey := SigningKey.does_readSteps.ends_result SigningKey.failsOnlyWith_read deliveries
  have hSubkey :=
    EncryptionSubkey.does_readSteps.ends_result EncryptionSubkey.failsOnlyWith_read deliveries
  have hUserId := UserId.does_readSteps.ends_result UserId.failsAsFormat_read deliveries
  have hKeyFile :=
    Certificate.does_readKeyFileSteps.ends_result Certificate.failsOnlyWith_readKeyFile deliveries
  have hArmor : Armor.readSteps.Ends (fun text => ((Armor.read text).outcome, text))
      (fun error => error.kind = .format) octets :=
    ⟨Armor.does_readSteps octets, fun _ => Armor.kind_of_outcome_read_eq_error⟩
  exact ⟨hHeader, hSplit, hRead, hMpi, hKey, hSubkey, hUserId, hKeyFile, hArmor⟩

end PhraseKey
