import PhraseKey.CommandLine.Run
import PhraseKey.Proofs.Armoring
import PhraseKey.Proofs.InputArrival
import PhraseKey.Proofs.KeyFiles
import PhraseKey.Proofs.OptionWords
import PhraseKey.Stateful

/-!
Runs with armor and without it. Armor is made last, of a stream that is never empty and whose first
octet tells what it is. So it neither makes a run fail nor keeps one from failing, and is read back as
the plain output.
-/

namespace PhraseKey

open Armor (BlockType)

/-- The type of a stream is that of its first packet. -/
theorem Packet.ofStream_framed (packet : Packet) (rest : List UInt8) :
    BlockType.ofStream (packet.framed ++ rest) = BlockType.ofStream [packet.tag.headerOctet] := rfl

namespace Certificate

variable {certificate : Certificate} {stream : List UInt8}

/-- All streams start with a packet of their own. -/
theorem ofStream_of_publicBytes (h : certificate.publicBytes.outcome = .ok stream) :
    BlockType.ofStream stream = .ok .publicKey := by
  by_cases hLength : certificate.userId.id.length ≤ 255
  · rw [outcome_publicBytes certificate hLength] at h
    cases h
    rw [publicPackets, List.flatMap_cons, Packet.ofStream_framed]
    change BlockType.ofStream [Tag.publicKey.headerOctet] = _
    decide
  · rw [outcome_publicBytes_of_lt (Nat.lt_of_not_le hLength)] at h
    cases h

theorem ofStream_of_secretBytes (h : certificate.secretBytes.outcome = .ok stream) :
    BlockType.ofStream stream = .ok .privateKey := by
  by_cases hLength : certificate.userId.id.length ≤ 255
  · rw [outcome_secretBytes hLength] at h
    cases h
    rw [secretPackets, List.flatMap_cons, Packet.ofStream_framed]
    change BlockType.ofStream [Tag.secretKey.headerOctet] = _
    decide
  · rw [outcome_secretBytes_of_lt (Nat.lt_of_not_le hLength)] at h
    cases h

theorem ofStream_of_sign {source : Source} (h : (certificate.sign.run source).1.outcome = .ok stream) :
    BlockType.ofStream stream = .ok .signature := by
  have hEnding := (certificate.key.exists_outcome_sign_iff source).mp ⟨stream, h⟩
  rw [sign, certificate.key.outcome_sign hEnding] at h
  cases h
  rw [← List.append_nil (Packet.framed _), Packet.ofStream_framed]
  change BlockType.ofStream [Tag.signature.headerOctet] = _
  decide

end Certificate

namespace CommandLine

/-- The type of the block that these arguments ask for. -/
def Arguments.blockType (arguments : Arguments) : BlockType :=
  match arguments.mode with
  | .sign => .signature
  | .keygen => if arguments.has .publicOnly then .publicKey else .privateKey

/-- The arguments are the same but for armor, which only the second ones ask for. -/
structure Arguments.SameButArmor (plain armored : Arguments) : Prop where
  has_eq : ∀ switch, switch ≠ .armor → armored.has switch = plain.has switch
  time_eq : armored.time = plain.time
  input_eq : armored.input = plain.input
  load_eq : armored.load = plain.load
  repetitions_eq : armored.repetitions = plain.repetitions
  uid_eq : armored.uid = plain.uid
  plain_armor : plain.has .armor = false
  armored_armor : armored.has .armor = true

/-- How a run ends without armor and with it: both times with the same error, or with a stream and with
a text that is read as this stream. -/
inductive Outcome.Armored (type : BlockType) : Outcome → Outcome → Prop where
  | failure (error : Error) : Armored type (.failure error) (.failure error)
  | success {stream text : List UInt8} (stream_ne_nil : stream ≠ [])
      (read_eq : (Armor.read text).outcome = .ok ⟨type, ⟨[]⟩, stream⟩) :
      Armored type (.success stream) (.success text)

theorem Arguments.sameButArmor_behind {arguments : Arguments} (h : arguments.has .armor = false) :
    arguments.SameButArmor (arguments.behind .armor) where
  has_eq := by
    intro switch hSwitch
    simp [has_behind, hSwitch]
  time_eq := rfl
  input_eq := rfl
  load_eq := rfl
  repetitions_eq := rfl
  uid_eq := rfl
  plain_armor := h
  armored_armor := by simp [has_behind]

namespace Host

section Lawful

variable {m : Type → Type} [Monad m] (host : Host m) {plain armored : Arguments}

theorem derive_eq (h : plain.SameButArmor armored) : host.derive armored = host.derive plain := by
  have hNow := h.has_eq .now (by decide)
  have hParanoid := h.has_eq .paranoid (by decide)
  have hSubkey := h.has_eq .subkey (by decide)
  simp only [derive, passphrase, created, Arguments.userId, Arguments.confirmations,
    Arguments.createdAt, Arguments.difficulty, h.uid_eq, h.input_eq, h.repetitions_eq, h.time_eq,
    hNow, hParanoid, hSubkey]

theorem stream_eq (h : plain.SameButArmor armored) (certificate : Certificate) :
    host.stream armored certificate = host.stream plain certificate := by
  have hSign := h.has_eq .sign (by decide)
  have hKeygen := h.has_eq .keygen (by decide)
  have hPublic := h.has_eq .publicOnly (by decide)
  simp only [stream, Arguments.mode, hSign, hKeygen, hPublic]

/-- The certificate that is loaded or derived. -/
def certificate (arguments : Arguments) : ExceptT Error m Certificate :=
  match arguments.load with
  | some path => host.load path
  | none => host.derive arguments

/-- Show the fingerprint, if that is asked for. -/
def announce (arguments : Arguments) (certificate : Certificate) : ExceptT Error m PUnit :=
  if arguments.has .fingerprint then
    host.report (hexUpper certificate.key.fingerprint.octets.toList)
  else pure ()

theorem certificate_eq (h : plain.SameButArmor armored) :
    host.certificate armored = host.certificate plain := by
  simp only [certificate, h.load_eq, host.derive_eq h]

theorem announce_eq (h : plain.SameButArmor armored) (certificate : Certificate) :
    host.announce armored certificate = host.announce plain certificate := by
  have hFingerprint := h.has_eq .fingerprint (by decide)
  simp only [announce, hFingerprint]

/-- The steps of a run, of which armor is the last. -/
theorem output_eq [LawfulMonad m] (arguments : Arguments) :
    host.output arguments = (do
      let certificate ← host.certificate arguments
      host.announce arguments certificate
      let stream ← host.stream arguments certificate
      if arguments.has .armor then ExceptT.mk (pure (Armor.ofStream stream)) else pure stream) := by
  rw [output, certificate]
  cases arguments.load <;> cases hFingerprint : arguments.has .fingerprint <;>
    simp [announce, hFingerprint]

/-- Armor is made of the plain output. -/
theorem output_eq_bind [LawfulMonad m] (h : plain.SameButArmor armored) :
    host.output armored =
      host.output plain >>= fun stream => ExceptT.mk (pure (Armor.ofStream stream)) := by
  simp [output_eq, certificate_eq host h, announce_eq host h, stream_eq host h, h.plain_armor,
    h.armored_armor]

/-- The steps of a run with a key file read nothing but the file and the standard input. -/
theorem output_eq_of_load {host host' : Host m} {arguments arguments' : Arguments} {path : String}
    (hLoad : arguments.load = some path) (hLoad' : arguments'.load = some path)
    (hHas : ∀ switch ∈ [.sign, .keygen, .armor, .fingerprint, .publicOnly],
      arguments'.has switch = arguments.has switch)
    (hFile : host'.openFile = host.openFile) (hInput : host'.standardInput = host.standardInput)
    (hReport : host'.report = host.report) : host'.output arguments' = host.output arguments := by
  simp only [List.forall_mem_cons] at hHas
  obtain ⟨hSign, hKeygen, hArmor, hFingerprint, hPublic, -⟩ := hHas
  simp only [output, hLoad, hLoad', load, stream, Arguments.mode, hSign, hKeygen, hArmor,
    hFingerprint, hPublic, hFile, hInput, hReport]

end Lawful

section Deterministic

variable {σ : Type} {state left : σ} {host : Host (StateM σ)} {plain armored : Arguments}
  {words words' : List String}

/-- A run of accepted words puts out what the steps yield, or reports why there is nothing. -/
theorem run_of_output_eq_ok {arguments : Arguments} {output : List UInt8}
    (hParse : parse words = .ok arguments)
    (h : (host.output arguments).run.run state = (.ok output, left)) :
    (host.run words).run state = (.success output, left) := by
  rw [run, hParse]
  dsimp only
  rw [StateT.run_bind, h]
  rfl

theorem run_of_output_eq_error {arguments : Arguments} {error : Error}
    (hParse : parse words = .ok arguments)
    (h : (host.output arguments).run.run state = (.error error, left)) :
    (host.run words).run state =
      (.failure error, ((host.report (programName ++ ": " ++ error.message)).run left).2) := by
  rw [run, hParse]
  dsimp only
  rw [StateT.run_bind, h]
  rfl

/-- The stream of a run is of the type that its arguments ask for. -/
theorem ofStream_of_stream {arguments : Arguments} {certificate : Certificate} {stream : List UInt8}
    (h : (host.stream arguments certificate).run.run state = (.ok stream, left)) :
    BlockType.ofStream stream = .ok arguments.blockType := by
  rw [Host.stream] at h
  rw [Arguments.blockType]
  cases hMode : arguments.mode with
  | sign =>
      rw [hMode] at h
      obtain ⟨source, middle, -, hSign⟩ := exists_of_run_bind_eq_ok h
      exact Certificate.ofStream_of_sign (congrArg Prod.fst hSign)
  | keygen =>
      rw [hMode] at h
      cases hPublic : arguments.has .publicOnly with
      | false =>
          rw [hPublic] at h
          exact Certificate.ofStream_of_secretBytes (congrArg Prod.fst h)
      | true =>
          rw [hPublic] at h
          exact Certificate.ofStream_of_publicBytes (congrArg Prod.fst h)

theorem ofStream_of_output {stream : List UInt8} (hPlain : plain.has .armor = false)
    (h : (host.output plain).run.run state = (.ok stream, left)) :
    BlockType.ofStream stream = .ok plain.blockType := by
  rw [output_eq, hPlain] at h
  obtain ⟨certificate, _, -, h⟩ := exists_of_run_bind_eq_ok h
  obtain ⟨_, _, -, h⟩ := exists_of_run_bind_eq_ok h
  obtain ⟨found, _, hStream, h⟩ := exists_of_run_bind_eq_ok h
  cases h
  exact ofStream_of_stream hStream

/-- Both runs do the same, and what is put out in the end is the stream or its armor. -/
theorem exists_armored (hPlain : parse words = .ok plain) (hArmored : parse words' = .ok armored)
    (hSame : plain.SameButArmor armored) (state : σ) :
    ∃ outcome outcome' left, (host.run words).run state = (outcome, left) ∧
      (host.run words').run state = (outcome', left) ∧
      Outcome.Armored plain.blockType outcome outcome' := by
  rcases hOutput : (host.output plain).run.run state with ⟨error | stream, left⟩
  · have hOutput' : (host.output armored).run.run state = (.error error, left) := by
      rw [output_eq_bind host hSame, run_bind_of_error hOutput]
    exact ⟨_, _, _, run_of_output_eq_error hPlain hOutput, run_of_output_eq_error hArmored hOutput',
      .failure error⟩
  · have hType := ofStream_of_output hSame.plain_armor hOutput
    have hText : Armor.ofStream stream = .ok (Armor.write stream plain.blockType) := by
      rw [Armor.ofStream, hType]
      rfl
    have hOutput' : (host.output armored).run.run state =
        (.ok (Armor.write stream plain.blockType), left) := by
      rw [output_eq_bind host hSame, run_bind_of_ok hOutput, hText]
      rfl
    have hNonempty : stream ≠ [] := by
      rintro rfl
      cases hType
    have hRule : ¬ Armor.rule <:+: [] := by decide
    have hRead := Armor.outcome_read_append .lineFeed hRule (by decide) stream plain.blockType []
    rw [List.nil_append, List.append_nil] at hRead
    exact ⟨_, _, _, run_of_output_eq_ok hPlain hOutput, run_of_output_eq_ok hArmored hOutput',
      .success hNonempty hRead⟩

/-- Armor changes nothing but the writing. On any host in any state, the runs of two command lines that
are the same but for armor leave the host in the same state, and fail with the same error, or put out a
stream that is not empty and a text that is read as this stream, with the type that the arguments ask
for. Putting the switch in front of the words makes such a command line. The run with a key file
depends on nothing but the file, the standard input, and the switches that say what to put out. -/
theorem run_armored (host : Host (StateM σ)) (state : σ) :
    (∀ (words words' : List String) (plain armored : Arguments), parse words = .ok plain →
      parse words' = .ok armored → plain.SameButArmor armored →
        ∃ outcome outcome' left, (host.run words).run state = (outcome, left) ∧
          (host.run words').run state = (outcome', left) ∧
          Outcome.Armored plain.blockType outcome outcome') ∧
    (∀ (words : List String) (plain : Arguments), parse words = .ok plain →
      plain.has .armor = false →
        ∃ armored, parse ("--armor" :: words) = .ok armored ∧ plain.SameButArmor armored) ∧
    (∀ (host' : Host (StateM σ)) (words words' : List String) (arguments arguments' : Arguments)
      (path : String), parse words = .ok arguments → parse words' = .ok arguments' →
      arguments.load = some path → arguments'.load = some path →
      (∀ switch ∈ [.sign, .keygen, .armor, .fingerprint, .publicOnly],
        arguments'.has switch = arguments.has switch) →
      host'.openFile = host.openFile → host'.standardInput = host.standardInput →
      host'.report = host.report →
        (host'.run words').run state = (host.run words).run state) := by
  refine ⟨?_, ?_, ?_⟩
  · intro words words' plain armored hPlain hArmored hSame
    exact exists_armored hPlain hArmored hSame state
  · intro words plain hPlain hLacks
    exact ⟨_, parse_armor_cons hPlain hLacks, Arguments.sameButArmor_behind hLacks⟩
  · intro host' words words' arguments arguments' path hParse hParse' hLoad hLoad' hHas hFile hInput
      hReport
    have hOutput := output_eq_of_load hLoad hLoad' hHas hFile hInput hReport
    rw [run, run, hParse, hParse']
    dsimp only
    rw [hOutput, hReport]

end Deterministic

/-- The certificate in a key file of the seed of zeros. -/
def zeroCertificate : Certificate :=
  ⟨.zero, .plain [0x61], none⟩

/-- A host on which every path names this key file, and which remembers what is reported. -/
def zeroKeyHost : Host (StateM (List String)) where
  environment := fun _ => none
  openFile := fun _ => pure (.ok (.ofOctets (zeroCertificate.keyFilePackets.flatMap Packet.framed)))
  fileContents := fun _ => pure (.error "no such file")
  standardInput := pure (.ofOctets [0x68, 0x69])
  readHidden := fun _ => pure (.error .differingPassphrases)
  clock := pure 0
  report := fun line => modify fun lines => line :: lines

theorem output_zeroKeyHost {arguments : Arguments} {path : String}
    (hLoad : arguments.load = some path)
    (hHas : ∀ switch ∈ [.sign, .armor, .fingerprint, .publicOnly], arguments.has switch = false) :
    ∃ stream, (zeroKeyHost.output arguments).run.run [] = (.ok stream, []) := by
  simp only [List.forall_mem_cons] at hHas
  obtain ⟨hSign, hArmor, hFingerprint, hPublic, -⟩ := hHas
  have hLength : zeroCertificate.userId.id.length ≤ 255 := by decide
  have hRead := (Certificate.consumes_readKeyFile hLength _ [] (Source.octets_ofOctets_nil _)).1
  have hCertificate : (zeroKeyHost.certificate arguments).run.run [] = (.ok zeroCertificate, []) := by
    rw [certificate, hLoad]
    exact congrArg (·, []) hRead
  have hAnnounce : (zeroKeyHost.announce arguments zeroCertificate).run.run [] = (.ok (), []) := by
    rw [announce, hFingerprint]
    rfl
  have hStream : (zeroKeyHost.stream arguments zeroCertificate).run.run [] =
      (zeroCertificate.secretBytes.outcome, []) := by
    rw [stream, Arguments.mode, hSign, hPublic]
    rfl
  rw [Certificate.outcome_secretBytes hLength] at hStream
  rw [output_eq, run_bind_of_ok hCertificate, run_bind_of_ok hAnnounce, run_bind_of_ok hStream, hArmor]
  exact ⟨_, rfl⟩

/-- The runs with a key file, plain, with armor, and on another host with what does not matter. -/
theorem run_armored_zero :
    ∃ stream text, (zeroKeyHost.run ["--load", "key"]).run [] = (.success stream, []) ∧
      (zeroKeyHost.run ["-l", "key", "-a"]).run [] = (.success text, []) ∧ stream ≠ [] ∧
      (Armor.read text).outcome = .ok ⟨.privateKey, ⟨[]⟩, stream⟩ ∧
      (Host.run { zeroKeyHost with environment := some } ["-xt5", "-lkey"]).run [] =
        (.success stream, []) := by
  let plain : Arguments := { Arguments.none with load := some "key" }
  have hPlain : parse ["--load", "key"] = .ok plain := by decide
  have hArmored : parse ["-l", "key", "-a"] = .ok (plain.behind .armor) := by decide
  have hOther : parse ["-xt5", "-lkey"] = .ok ⟨[.paranoid], some 5, none, some "key", none, none⟩ := by
    decide
  obtain ⟨hRuns, -, hLoaded⟩ := run_armored zeroKeyHost []
  obtain ⟨outcome, outcome', left, hRun, hRun', hBoth⟩ := hRuns ["--load", "key"] ["-l", "key", "-a"]
    plain (plain.behind .armor) hPlain hArmored (Arguments.sameButArmor_behind (by decide))
  obtain ⟨stream, hOutput⟩ : ∃ stream, (zeroKeyHost.output plain).run.run [] = (.ok stream, []) :=
    output_zeroKeyHost rfl (by decide)
  have hSuccess := run_of_output_eq_ok hPlain hOutput
  rw [hRun] at hSuccess
  cases hSuccess
  have hSame := hLoaded { zeroKeyHost with environment := some } ["--load", "key"] ["-xt5", "-lkey"]
    plain _ "key" hPlain hOther rfl rfl (by decide) rfl rfl rfl
  cases hBoth with
  | success hNonempty hRead =>
      exact ⟨stream, _, hRun, hRun', hNonempty, hRead, hSame.trans hRun⟩

end Host

end CommandLine

end PhraseKey
