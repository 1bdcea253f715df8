import PhraseKey.Certificate
import PhraseKey.Proofs.KeyStorage
import PhraseKey.Proofs.ReadingDemand
import PhraseKey.Proofs.SignatureMaking

/-!
How input arrives. Packets, keys, user ids and key files are read, and documents are signed, with the
same result however a reader cuts its octets into pieces and however often it is interrupted.
-/

namespace PhraseKey

/-- Only the end of the data makes a packet malformed. Any other failure is one of the input. -/
theorem Ending.kind_shortage (ending : Ending) :
    ending.shortage.kind = match ending with
      | .endOfData => .format
      | .failed failure => if failure.kind = .unexpectedEnd then .format else .input := by
  cases ending with
  | endOfData => rfl
  | failed failure =>
      dsimp only [shortage]
      by_cases hKind : failure.kind = .unexpectedEnd
      · rw [if_pos hKind, if_pos hKind]
        rfl
      · rw [if_neg hKind, if_neg hKind]
        exact if_neg hKind

namespace SigningKey

/-- The secret is decoded, restored and compared with the point behind the packet. -/
theorem takesPacket_read : read.TakesPacket := by
  apply (Packet.takesPacket_readTagged _).bind
  intro body
  apply (Reading.readsNothing_ofExcept _).bind
  intro stored
  apply (Reading.readsNothing_ofExcept _).bind
  intro seed
  apply (Reading.readsNothing_ofLogged _).bind
  intro key
  apply (Reading.readsNothing_ensure _ _).bind
  intro _
  exact Reading.readsNothing_pure key

/-- Loading a key needs its packet. -/
theorem runsShortOn_read : read.RunsShortOn Packet.EndsInside :=
  takesPacket_read.runsShortOn

end SigningKey

namespace EncryptionSubkey

theorem takesPacket_read : read.TakesPacket := by
  apply (Packet.takesPacket_readTagged _).bind
  intro body
  apply (Reading.readsNothing_ofExcept _).bind
  intro stored
  apply (Reading.readsNothing_ofExcept _).bind
  intro secret
  apply (Reading.readsNothing_ofLogged _).bind
  intro _
  apply (Reading.readsNothing_ofLogged _).bind
  intro key
  apply (Reading.readsNothing_ensure _ _).bind
  intro _
  exact Reading.readsNothing_pure key

theorem runsShortOn_read : read.RunsShortOn Packet.EndsInside :=
  takesPacket_read.runsShortOn

end EncryptionSubkey

namespace UserId

theorem takesPacket_read : read.TakesPacket := by
  apply (Packet.takesPacket_readTagged _).bind
  intro id
  exact Reading.readsNothing_pure _

theorem runsShortOn_read : read.RunsShortOn Packet.EndsInside :=
  takesPacket_read.runsShortOn

end UserId

/-- A key file ends early if it ends inside of its first packet, or if that is a key and what follows it
ends inside of the second one. -/
def Certificate.EndsInside (octets : List UInt8) : Prop :=
  Packet.EndsInside octets ∨
    ∃ key, (SigningKey.read.run (.ofOctets octets)).1.outcome = .ok key ∧
      Packet.EndsInside (SigningKey.read.run (.ofOctets octets)).2.octets

/-- Loading a key file needs two packets, or one that is not a key. -/
theorem Certificate.runsShortOn_readKeyFile : readKeyFile.RunsShortOn EndsInside := by
  apply SigningKey.runsShortOn_read.bind fun _ => Packet.EndsInside
  intro key
  apply UserId.runsShortOn_read.last
  intro userId
  exact (Reading.readsNothing_ofLogged _).bind fun _ => Reading.readsNothing_pure _

/-- Signing takes all of a source. -/
theorem Statement.uniform_sign (statement : Statement) (seed : Octets 32) :
    (statement.sign seed).Uniform := by
  apply (Reading.uniform_ofExcept _).bind
  intro hasher
  apply Reading.uniform_toEnd.bind
  intro data
  exact Reading.uniform_ofExcept _

/-- What a source fails with is not signed, whatever was read before. -/
theorem Statement.outcome_sign_of_failed {statement : Statement} (hHash : statement.hash = .sha256)
    (seed : Octets 32) {source : Source} {failure : Failure}
    (hEnding : source.ending = .failed failure) :
    ((statement.sign seed).run source).1.outcome = .error (.io failure) := by
  have hHasher : statement.hash.hasher = .ok .sha256 := by
    rw [hHash, HashAlgorithm.hasher_sha256]
  rw [sign]
  apply (Reading.outcome_ofExcept_bind hHasher _ source).trans
  rw [Reading.run_bind_of_error (Reading.outcome_toEnd_of_failed hEnding)]

namespace SigningKey

theorem uniform_sign (key : SigningKey) : key.sign.Uniform := by
  apply (key.documentStatement.uniform_sign key.seed).bind
  intro signature
  apply (Reading.uniform_ofLogged _).bind
  intro _
  exact Reading.uniform_ofLogged _

theorem outcome_sign_of_failed (key : SigningKey) {source : Source} {failure : Failure}
    (hEnding : source.ending = .failed failure) :
    (key.sign.run source).1.outcome = .error (.io failure) := by
  rw [sign, Reading.run_bind_of_error (Statement.outcome_sign_of_failed rfl key.seed hEnding)]

/-- A document is signed if and only if its source ends without a failure. -/
theorem exists_outcome_sign_iff (key : SigningKey) (source : Source) :
    (∃ packet, (key.sign.run source).1.outcome = .ok packet) ↔ source.ending = .endOfData := by
  constructor
  · rintro ⟨packet, hOutcome⟩
    cases hEnding : source.ending with
    | endOfData => rfl
    | failed failure =>
        rw [key.outcome_sign_of_failed hEnding] at hOutcome
        cases hOutcome
  · intro hEnding
    exact ⟨_, key.outcome_sign hEnding⟩

end SigningKey

/-- Octets that arrive one at a time, each behind an interruption. -/
def Source.oneByOne (octets : List UInt8) (ending : Ending) : Source :=
  ⟨octets.flatMap fun octet => [.interruption, .piece octet []], ending⟩

theorem Source.octets_oneByOne (octets : List UInt8) (ending : Ending) :
    (oneByOne octets ending).octets = octets := by
  simp [oneByOne, Source.octets, List.flatMap_assoc, Delivery.octets]

/-- Results do not depend on how input arrives. From sources that deliver the same octets and end the
same way, packets, keys, user ids and key files are read with the same results, signatures are made
with the same results, and the same octets are consumed. Once a packet is complete, nothing is asked of
the source, and its end does not matter. A source that ends inside of a packet is an error of the format
if that is the end of the data, and otherwise an error of the input. Signing succeeds if and only if the
source ends for good. -/
theorem arrival_immaterial :
    Packet.read.RunsShortOn Packet.EndsInside ∧
      (∀ expected, (Packet.readTagged expected).RunsShortOn Packet.EndsInside) ∧
      SigningKey.read.RunsShortOn Packet.EndsInside ∧
      EncryptionSubkey.read.RunsShortOn Packet.EndsInside ∧
      UserId.read.RunsShortOn Packet.EndsInside ∧
      Certificate.readKeyFile.RunsShortOn Certificate.EndsInside ∧
      (∀ ending : Ending, ending.shortage.kind = match ending with
        | .endOfData => .format
        | .failed failure => if failure.kind = .unexpectedEnd then .format else .input) ∧
      ∀ key : SigningKey, key.sign.Uniform ∧ ∀ source,
        (∃ packet, (key.sign.run source).1.outcome = .ok packet) ↔ source.ending = .endOfData := by
  refine ⟨Packet.runsShortOn_read, Packet.runsShortOn_readTagged, SigningKey.runsShortOn_read,
    EncryptionSubkey.runsShortOn_read, UserId.runsShortOn_read, Certificate.runsShortOn_readKeyFile,
    Ending.kind_shortage, ?_⟩
  intro key
  exact ⟨key.uniform_sign, key.exists_outcome_sign_iff⟩

/-- A key that arrives one octet at a time, a user id and a key file that are cut off, and a document
whose source fails in the end. -/
theorem arrival_immaterial_oneByOne :
    (SigningKey.read.run (.oneByOne SigningKey.zero.stored.framed .endOfData)).1 =
        (SigningKey.read.run (.ofOctets SigningKey.zero.stored.framed)).1 ∧
      (UserId.read.run (.oneByOne [0xCD, 0x05, 0x61] (.failed ⟨.timedOut, "timed out"⟩))).1.outcome =
        .error (.io ⟨.timedOut, "timed out"⟩) ∧
      (Certificate.readKeyFile.run
          (.oneByOne (SigningKey.zero.stored.framed ++ [0xCD]) .endOfData)).1.outcome =
        .error .truncatedPacket ∧
      (SigningKey.zero.sign.run (.oneByOne [0x61, 0x62] .endOfData)).1 =
        (SigningKey.zero.sign.run (.ofOctets [0x61, 0x62])).1 ∧
      ¬ ∃ packet, (SigningKey.zero.sign.run
        (.oneByOne [0x61, 0x62] (.failed ⟨.unexpectedEnd, "early end"⟩))).1.outcome = .ok packet := by
  obtain ⟨-, -, hKey, -, hUserId, hKeyFile, -, hSign⟩ := arrival_immaterial
  have hSame : ∀ octets, (Source.oneByOne octets .endOfData).SameInput (.ofOctets octets) := by
    intro octets
    constructor
    · rw [Source.octets_oneByOne, Source.octets_ofOctets]
    · rfl
  refine ⟨hKey.logged_eq (hSame _), ?_, ?_, (hSign .zero).1.logged_eq (hSame _), ?_⟩
  · apply hUserId.outcome_eq
    rw [Source.octets_oneByOne]
    exact ⟨by decide, by decide⟩
  · apply hKeyFile.outcome_eq
    rw [Source.octets_oneByOne]
    obtain ⟨hRead, hLeft, -⟩ := SigningKey.zero.consumes_read
      (.ofOctets (SigningKey.zero.stored.framed ++ [0xCD])) [0xCD] (Source.octets_ofOctets _)
    right
    refine ⟨.zero, hRead, ?_⟩
    rw [hLeft]
    trivial
  · intro hSigned
    have hEnding := ((hSign .zero).2 _).mp hSigned
    cases hEnding

end PhraseKey
