import PhraseKey.Packet
import PhraseKey.Proofs.FieldReading

/-!
Packets read back from their framing, from an octet string or from a source that delivers it in any
pieces. Reading a packet consumes exactly its frame.
-/

namespace PhraseKey

/-- A source of some octets has nothing behind them. -/
theorem Source.octets_ofOctets_nil (octets : List UInt8) :
    (ofOctets octets).octets = octets ++ [] := by
  rw [octets_ofOctets, List.append_nil]

namespace Reading

variable {α β : Type}

/-- From every source that has these octets next, in whatever pieces, the reading takes exactly them
and yields the value. How the source ends does not matter and does not change. -/
def Consumes (reading : Reading α) (octets : List UInt8) (value : α) : Prop :=
  ∀ source rest, source.octets = octets ++ rest →
    (reading.run source).1.outcome = .ok value ∧ (reading.run source).2.octets = rest ∧
      (reading.run source).2.ending = source.ending

theorem consumes_pure (value : α) : (pure value : Reading α).Consumes [] value :=
  fun _ _ h => ⟨rfl, h, rfl⟩

/-- What reads nothing consumes nothing. -/
theorem consumes_ofLogged {logged : Logged α} {value : α} (h : logged.outcome = .ok value) :
    (ofLogged logged).Consumes [] value :=
  fun _ _ hOctets => ⟨h, hOctets, rfl⟩

theorem consumes_ofExcept {outcome : Except Error α} {value : α} (h : outcome = .ok value) :
    (ofLogged (.ofExcept outcome)).Consumes [] value :=
  consumes_ofLogged h

/-- A log entry on the way. -/
theorem consumes_log {logged : Logged Unit} (h : logged.outcome = .ok ()) :
    (ofLogged logged).Consumes [] () :=
  consumes_ofLogged h

theorem Consumes.bind {first : Reading α} {next : α → Reading β} {front back : List UInt8}
    {value : α} {result : β} (hFirst : first.Consumes front value)
    (hNext : (next value).Consumes back result) :
    (first >>= next).Consumes (front ++ back) result := by
  intro source rest hOctets
  rw [List.append_assoc] at hOctets
  obtain ⟨hOutcome, hLeft, hEnding⟩ := hFirst source (back ++ rest) hOctets
  obtain ⟨hResult, hRest, hLast⟩ := hNext (first.run source).2 rest hLeft
  rw [run_bind_of_ok hOutcome]
  exact ⟨hResult, hRest, hLast.trans hEnding⟩

/-- What follows the last octets taken. -/
theorem Consumes.last {first : Reading α} {next : α → Reading β} {octets : List UInt8} {value : α}
    {result : β} (hFirst : first.Consumes octets value)
    (hNext : (next value).Consumes [] result) : (first >>= next).Consumes octets result := by
  have hRead := hFirst.bind hNext
  rwa [List.append_nil] at hRead

/-- What reads nothing, in front of what does. -/
theorem Consumes.after {first : Reading α} {next : α → Reading β} {octets : List UInt8} {value : α}
    {result : β} (hFirst : first.Consumes [] value) (hNext : (next value).Consumes octets result) :
    (first >>= next).Consumes octets result :=
  hFirst.bind hNext

theorem consumes_ensure {condition : Prop} [Decidable condition] (holds : condition)
    (error : Error) : (ensure condition error).Consumes [] () := by
  rw [ensure, if_pos holds]
  exact consumes_pure ()

/-- On every source that has these octets next the reading fails, and with this error. -/
def Fails (reading : Reading α) (octets : List UInt8) (error : Error) : Prop :=
  ∀ source rest, source.octets = octets ++ rest → (reading.run source).1.outcome = .error error

theorem fails_ofLogged {logged : Logged α} {error : Error} (h : logged.outcome = .error error) :
    (ofLogged logged).Fails [] error :=
  fun _ _ _ => h

theorem fails_ofExcept {outcome : Except Error α} {error : Error} (h : outcome = .error error) :
    (ofLogged (.ofExcept outcome)).Fails [] error :=
  fails_ofLogged h

theorem fails_ensure {condition : Prop} [Decidable condition] (fails : ¬ condition) (error : Error) :
    (ensure condition error).Fails [] error := by
  rw [ensure, if_neg fails]
  exact fun _ _ _ => rfl

theorem Fails.bind {first : Reading α} {octets : List UInt8} {error : Error}
    (h : first.Fails octets error) (next : α → Reading β) : (first >>= next).Fails octets error := by
  intro source rest hOctets
  rw [run_bind_of_error (h source rest hOctets)]

/-- What reads on fails behind the last octets taken. -/
theorem Consumes.last_fails {first : Reading α} {next : α → Reading β} {octets : List UInt8}
    {value : α} {error : Error} (hFirst : first.Consumes octets value)
    (hNext : (next value).Fails [] error) : (first >>= next).Fails octets error := by
  intro source rest hOctets
  obtain ⟨hOutcome, hLeft, -⟩ := hFirst source rest hOctets
  rw [run_bind_of_ok hOutcome]
  exact hNext (first.run source).2 rest hLeft

end Reading

/-- The error of a source that ended inside of a packet. A failure that is not about the end of the data
is kept. -/
def Ending.shortage : Ending → Error
  | .endOfData => .truncatedPacket
  | .failed failure => if failure.kind = .unexpectedEnd then .truncatedPacket else .io failure

/-- Ids below 64 survive their header octet. -/
theorem Tag.ofHeaderOctet_headerOctet_of_lt {tag : Tag} (small : tag.id < 64) :
    ofHeaderOctet tag.headerOctet = ofId tag.id := by
  have hMask : ∀ b : BitVec 8, b < 64 → b &&& 0x3F = b := by decide
  rw [ofHeaderOctet_headerOctet]
  exact congrArg ofId (UInt8.toBitVec_inj.mp (hMask tag.id.toBitVec small))

namespace PacketHeader

/-- The header of a short body. -/
theorem outcome_ofLength {tag : Tag} {length : Nat} (fits : length ≤ maxBodyLength) :
    (ofLength tag length).outcome = .ok ⟨tag, UInt8.ofNat length⟩ := by
  have hShort : ¬ maxBodyLength < length := by omega
  rw [ofLength, if_neg hShort]
  by_cases hAmbiguous : firstAmbiguousLength ≤ length
  · rw [if_pos hAmbiguous]
    rfl
  · rw [if_neg hAmbiguous]
    rfl

theorem outcome_ofLength_of_lt {tag : Tag} {length : Nat} (long : maxBodyLength < length) :
    (ofLength tag length).outcome = .error (.oversizedBody length maxBodyLength) := by
  rw [ofLength, if_pos long]
  rfl

/-- A header octet that was written is accepted, with the tag that is found in it. -/
theorem ofOctets_headerOctet (tag : Tag) (length : UInt8) :
    ofOctets tag.headerOctet length = .ok ⟨.ofHeaderOctet tag.headerOctet, length⟩ := by
  simp [ofOctets, Tag.headerOctet_and]

end PacketHeader

namespace Packet

/-- A packet in its frame. The length octet is that of the body only if the body is short enough. -/
def framed (packet : Packet) : List UInt8 :=
  (PacketHeader.mk packet.tag (UInt8.ofNat packet.body.length)).encode ++ packet.body

/-- A packet that its frame tells: the tag is found in the header octet, and the length of the body fits
into the other one. -/
structure Fits (packet : Packet) : Prop where
  tag_eq : .ofHeaderOctet packet.tag.headerOctet = packet.tag
  length_le : packet.body.length ≤ PacketHeader.maxBodyLength

theorem outcome_encode {tag : Tag} {body : List UInt8}
    (fits : body.length ≤ PacketHeader.maxBodyLength) :
    (encode tag body).outcome = .ok (framed ⟨tag, body⟩) := by
  rw [encode, Logged.outcome_bind_of_ok (PacketHeader.outcome_ofLength fits)]
  rfl

theorem outcome_encode_of_lt {tag : Tag} {body : List UInt8}
    (long : PacketHeader.maxBodyLength < body.length) :
    (encode tag body).outcome = .error (.oversizedBody body.length PacketHeader.maxBodyLength) := by
  rw [encode, Logged.outcome_bind_of_error (PacketHeader.outcome_ofLength_of_lt long)]

/-- The length octet of a packet that fits. -/
theorem Fits.toNat_length {packet : Packet} (fits : packet.Fits) :
    (UInt8.ofNat packet.body.length).toNat = packet.body.length := by
  have hLength : packet.body.length ≤ 255 := fits.length_le
  rw [UInt8.toNat_ofNat']
  omega

/-- A frame is read back, whatever follows it. -/
theorem reads_framed {packet : Packet} (fits : packet.Fits) :
    Packet.parse.Reads packet.framed packet := by
  have hHeader : PacketHeader.parse.Reads
      (PacketHeader.mk packet.tag (UInt8.ofNat packet.body.length)).encode
      ⟨packet.tag, UInt8.ofNat packet.body.length⟩ := by
    refine (Parser.reads_u8 _ packet.tag.headerOctet).bind ?_
    refine (Parser.reads_u8 _ (UInt8.ofNat packet.body.length)).last ?_
    rw [PacketHeader.ofOctets_headerOctet, fits.tag_eq]
    exact Parser.reads_pure _
  exact hHeader.bind ((Parser.reads_take _ fits.toNat_length.symm).last (Parser.reads_pure packet))

/-- Splitting the next packet off yields what was framed and leaves what follows. -/
theorem decode_framed {packet : Packet} (fits : packet.Fits) (rest : List UInt8) :
    (decode (packet.framed ++ rest)).1.outcome = .ok packet ∧
      (decode (packet.framed ++ rest)).2 = rest := by
  rw [decode, reads_framed fits rest]
  exact ⟨rfl, rfl⟩

/-- The octets consist of these packets, split off one after another. -/
inductive Stream : List UInt8 → List Packet → Prop where
  | nil : Stream [] []
  | cons {octets : List UInt8} {packet : Packet} {packets : List Packet}
      (first : (decode octets).1.outcome = .ok packet) (more : Stream (decode octets).2 packets) :
      Stream octets (packet :: packets)

/-- An octet string consists of packets in at most one way. -/
theorem Stream.unique {octets : List UInt8} {packets packets' : List Packet}
    (h : Stream octets packets) (h' : Stream octets packets') : packets = packets' := by
  induction h generalizing packets' with
  | nil =>
      cases h' with
      | nil => rfl
      | cons first more => cases first
  | cons first more ih =>
      cases h' with
      | nil => cases first
      | cons first' more' =>
          rw [first] at first'
          cases first'
          rw [ih more']

theorem Stream.framed {packet : Packet} {rest : List UInt8} {packets : List Packet}
    (fits : packet.Fits) (more : Stream rest packets) :
    Stream (packet.framed ++ rest) (packet :: packets) := by
  obtain ⟨hOutcome, hRest⟩ := decode_framed fits rest
  rw [← hRest] at more
  exact .cons hOutcome more

/-- Frames behind each other are split into their packets. -/
theorem stream_flatMap_framed {packets : List Packet} (fits : ∀ packet ∈ packets, packet.Fits) :
    Stream (packets.flatMap framed) packets := by
  induction packets with
  | nil => exact .nil
  | cons packet rest ih =>
      rw [List.flatMap_cons]
      have hFirst := fits packet List.mem_cons_self
      exact .framed hFirst (ih fun other hOther => fits other (List.mem_cons_of_mem _ hOther))

theorem run_readOctets_of_le {n : Nat} {source : Source} (hEnough : n ≤ source.octets.length) :
    (readOctets n).run source =
      (.ofExcept (.ok ⟨source.octets.take n, List.length_take_of_le hEnough⟩),
        (source.readExact n).2) := by
  simp only [Reading.run, readOctets, Source.readExact_fst_of_le hEnough]

theorem run_readOctets_of_lt {n : Nat} {source : Source} (hShort : source.octets.length < n) :
    (readOctets n).run source =
      (.ofExcept (.error source.ending.shortage), (source.readExact n).2) := by
  simp only [Reading.run, readOctets, Source.readExact_fst_of_lt hShort]
  cases hEnding : source.ending with
  | endOfData => rfl
  | failed failure =>
      by_cases hKind : failure.kind = .unexpectedEnd
      · simp only [Ending.shortage, if_pos hKind]
      · simp only [Ending.shortage, if_neg hKind]

theorem consumes_readOctets {n : Nat} (octets : Octets n) :
    (readOctets n).Consumes octets.toList octets := by
  intro source rest hOctets
  have hLength := octets.length_toList
  have hEnough : n ≤ source.octets.length := by
    rw [hOctets, List.length_append]
    omega
  have hTaken : (⟨source.octets.take n, List.length_take_of_le hEnough⟩ : Octets n) = octets := by
    apply Octets.ext
    change source.octets.take n = octets.toList
    rw [hOctets]
    exact List.take_left' hLength
  rw [run_readOctets_of_le hEnough, hTaken]
  refine ⟨rfl, ?_, rfl⟩
  rw [Source.octets_readExact_snd, hOctets]
  exact List.drop_left' hLength

/-- Reading a packet takes its frame and nothing behind it. -/
theorem consumes_read {packet : Packet} (fits : packet.Fits) :
    Packet.read.Consumes packet.framed packet := by
  have hHeader : readHeader.Consumes
      (PacketHeader.mk packet.tag (UInt8.ofNat packet.body.length)).encode
      ⟨packet.tag, UInt8.ofNat packet.body.length⟩ := by
    refine (consumes_readOctets ⟨[packet.tag.headerOctet, UInt8.ofNat packet.body.length], rfl⟩).last
      (Reading.consumes_ofLogged ?_)
    change PacketHeader.ofOctets packet.tag.headerOctet _ = _
    rw [PacketHeader.ofOctets_headerOctet, fits.tag_eq]
  have hBody := consumes_readOctets ⟨packet.body, fits.toNat_length.symm⟩
  exact hHeader.bind (hBody.last ((Reading.consumes_log rfl).after (Reading.consumes_pure packet)))

theorem consumes_readTagged {packet : Packet} (fits : packet.Fits) :
    (readTagged packet.tag).Consumes packet.framed packet.body :=
  (consumes_read fits).last ((Reading.consumes_ensure rfl _).after
    (Reading.consumes_pure packet.body))

end Packet

end PhraseKey
