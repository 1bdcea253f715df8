import PhraseKey.Proofs.FieldAcceptance
import PhraseKey.Proofs.PacketAcceptance

/-!
Streams of packets. Packets are read one after another until that fails, and nothing is lost or made up
on the way: the packets of a stream are those that were written, and are written again as the octets
they were read from. Splitting an octet string and reading a source find the same packets.
-/

namespace PhraseKey

namespace Reading

variable {α β : Type}

/-- From a source that ends for good the reading leaves one that does, and it only fails with errors of
these. -/
def FailsOnlyWith (reading : Reading α) (allowed : Error → Prop) : Prop :=
  ∀ source, source.ending = .endOfData → (reading.run source).2.ending = .endOfData ∧
    ∀ error, (reading.run source).1.outcome = .error error → allowed error

variable {allowed : Error → Prop}

theorem failsOnlyWith_ofLogged {logged : Logged α}
    (h : ∀ error, logged.outcome = .error error → allowed error) :
    (ofLogged logged).FailsOnlyWith allowed :=
  fun _ hEnding => ⟨hEnding, h⟩

theorem failsOnlyWith_ofExcept {outcome : Except Error α}
    (h : ∀ error, outcome = .error error → allowed error) :
    (ofLogged (.ofExcept outcome)).FailsOnlyWith allowed :=
  failsOnlyWith_ofLogged h

/-- What succeeds whatever is read. -/
theorem failsOnlyWith_of_ok {logged : Logged α} {value : α} (h : logged.outcome = .ok value) :
    (ofLogged logged).FailsOnlyWith allowed := by
  apply failsOnlyWith_ofLogged
  intro error hError
  rw [h] at hError
  cases hError

theorem failsOnlyWith_pure (value : α) : (pure value : Reading α).FailsOnlyWith allowed :=
  failsOnlyWith_of_ok (rfl : (pure value : Logged α).outcome = .ok value)

theorem failsOnlyWith_ensure {condition : Prop} [Decidable condition] {error : Error}
    (h : allowed error) : (ensure condition error).FailsOnlyWith allowed := by
  rw [ensure]
  split
  · exact failsOnlyWith_pure ()
  · apply failsOnlyWith_ofLogged
    rintro _ ⟨⟩
    exact h

theorem FailsOnlyWith.bind {first : Reading α} {next : α → Reading β}
    (hFirst : first.FailsOnlyWith allowed) (hNext : ∀ value, (next value).FailsOnlyWith allowed) :
    (first >>= next).FailsOnlyWith allowed := by
  intro source hEnding
  obtain ⟨hLeft, hAllowed⟩ := hFirst source hEnding
  cases hOutcome : (first.run source).1.outcome with
  | error error =>
      rw [run_bind_of_error hOutcome]
      refine ⟨hLeft, ?_⟩
      rintro _ ⟨⟩
      exact hAllowed error hOutcome
  | ok value =>
      rw [run_bind_of_ok hOutcome]
      exact hNext value (first.run source).2 hLeft

theorem FailsOnlyWith.imp {reading : Reading α} {wider : Error → Prop}
    (h : reading.FailsOnlyWith allowed) (hWider : ∀ error, allowed error → wider error) :
    reading.FailsOnlyWith wider := by
  intro source hEnding
  obtain ⟨hLeft, hAllowed⟩ := h source hEnding
  exact ⟨hLeft, fun error hError => hWider error (hAllowed error hError)⟩

/-- Whatever the reading fails with is an error of the format. -/
def FailsAsFormat (reading : Reading α) : Prop :=
  reading.FailsOnlyWith fun error => error.kind = .format

end Reading

namespace PacketHeader

theorem kind_of_ofOctets_eq_error {first length : UInt8} {error : Error}
    (h : ofOctets first length = .error error) : error.kind = .format := by
  rw [ofOctets] at h
  split at h
  · cases h
  · cases h
    rfl

theorem failsAsFormat_parse : PacketHeader.parse.FailsAsFormat := by
  refine (Parser.failsAsFormat_u8 _).bind fun first => ?_
  refine (Parser.failsAsFormat_u8 _).bind fun length => ?_
  exact Parser.failsAsFormat_ofExcept fun _ => kind_of_ofOctets_eq_error

end PacketHeader

namespace Packet

theorem failsAsFormat_readOctets (n : Nat) : (readOctets n).FailsAsFormat := by
  intro source hEnding
  refine ⟨hEnding, fun error h => ?_⟩
  by_cases hEnough : n ≤ source.octets.length
  · rw [run_readOctets_of_le hEnough] at h
    cases h
  · rw [run_readOctets_of_lt (Nat.lt_of_not_le hEnough), hEnding] at h
    cases h
    rfl

theorem failsAsFormat_readHeader : readHeader.FailsAsFormat := by
  refine (failsAsFormat_readOctets 2).bind fun octets => ?_
  match octets with
  | ⟨[first, length], _⟩ =>
      exact Reading.failsOnlyWith_ofExcept fun _ => PacketHeader.kind_of_ofOctets_eq_error

/-- A truncated packet is an error of the format, and so is a header of another form. -/
theorem failsAsFormat_read : Packet.read.FailsAsFormat := by
  refine failsAsFormat_readHeader.bind fun header => ?_
  refine (failsAsFormat_readOctets _).bind fun body => ?_
  exact (Reading.failsOnlyWith_of_ok rfl).bind fun _ => Reading.failsOnlyWith_pure _

theorem failsAsFormat_parse : Packet.parse.FailsAsFormat := by
  refine PacketHeader.failsAsFormat_parse.bind fun header => ?_
  exact (Parser.failsAsFormat_take _ _).bind fun _ => Parser.failsAsFormat_pure _

/-- A packet that was split off stood there in its frame. -/
theorem accepts_parse :
    Packet.parse.Accepts fun front packet => front = packet.framed ∧ packet.Fits := by
  have hHeader : PacketHeader.parse.Accepts fun front header =>
      front = header.encode ∧ .ofHeaderOctet header.tag.headerOctet = header.tag := by
    refine (Parser.accepts_u8 _).bind ?_
    rintro _ first rfl
    refine (Parser.accepts_u8 _).bind ?_
    rintro _ length rfl
    refine (Parser.accepts_ofExcept _).imp ?_
    rintro _ header ⟨rfl, hOctets⟩
    obtain ⟨hEncode, hTag⟩ := PacketHeader.encode_of_ofOctets hOctets
    exact ⟨hEncode.symm, hTag⟩
  refine hHeader.bind ?_
  rintro _ header ⟨rfl, hTag⟩
  refine (Parser.accepts_take _ _).bind ?_
  rintro _ body ⟨rfl, hLength⟩
  have hBound := header.length.toNat_lt
  refine Parser.accepts_pure ⟨?_, hTag, ?_⟩
  · rw [framed, hLength, UInt8.ofNat_toNat, List.append_nil]
  · rw [hLength]
    change _ ≤ 255
    omega

/-- The log aside, splitting a packet off is parsing it. -/
theorem decode_eq_parse (octets : List UInt8) :
    (decode octets).1.outcome = (parse.parse octets).1 ∧
      (decode octets).2 = (parse.parse octets).2 := by
  rcases hParse : parse.parse octets with ⟨error | packet, rest⟩
  · rw [decode, hParse]
    exact ⟨rfl, rfl⟩
  · rw [decode, hParse]
    exact ⟨rfl, rfl⟩

/-- What splits off a packet and what reads one from a source agree on octets that end for good. -/
theorem decode_agrees_read {source : Source} (hEnding : source.ending = .endOfData) :
    (∃ packet, (decode source.octets).1.outcome = .ok packet ∧
      (Packet.read.run source).1.outcome = .ok packet ∧
      (Packet.read.run source).2.octets = (decode source.octets).2) ∨
    (∃ error error', (decode source.octets).1.outcome = .error error ∧
      (Packet.read.run source).1.outcome = .error error' ∧
      error.kind = .format ∧ error'.kind = .format) := by
  obtain ⟨hOutcome, hRest⟩ := decode_eq_parse source.octets
  rw [hOutcome, hRest]
  rcases hParse : parse.parse source.octets with ⟨error | packet, rest⟩
  · have hKind := failsAsFormat_parse source.octets error (congrArg Prod.fst hParse)
    cases hRead : (Packet.read.run source).1.outcome with
    | ok packet =>
        -- Its frame would be at the front, and would be split off.
        obtain ⟨_, hFront, rfl, hFits⟩ := accepts_read source packet hRead
        rw [hFront, reads_framed hFits] at hParse
        cases hParse
    | error error' =>
        exact .inr ⟨error, error', rfl, rfl, hKind,
          (failsAsFormat_read source hEnding).2 error' hRead⟩
  · obtain ⟨_, hFront, rfl, hFits⟩ := accepts_parse source.octets packet rest hParse
    obtain ⟨hRead, hLeft, -⟩ := consumes_read hFits source rest hFront
    exact .inl ⟨packet, rfl, hRead, hLeft⟩

/-- There is a header in every frame. -/
theorem framed_ne_nil (packet : Packet) : packet.framed ≠ [] :=
  List.cons_ne_nil _ _

/-- Reading a packet takes something off its source. -/
theorem length_octets_read_lt {source : Source} {packet : Packet}
    (h : (Packet.read.run source).1.outcome = .ok packet) :
    (Packet.read.run source).2.octets.length < source.octets.length := by
  obtain ⟨_, hFront, rfl, -⟩ := accepts_read source packet h
  have hFrame := List.length_pos_iff.mpr packet.framed_ne_nil
  rw [hFront, List.length_append]
  omega

/-- Packets read one after another until that failed, the error, and the source as it was before the
reading that failed. -/
structure Run where
  packets : List Packet
  error : Error
  left : Source

/-- Read packets until that fails. -/
def readAll (source : Source) : Run :=
  match _h : (Packet.read.run source).1.outcome with
  | .error error => ⟨[], error, source⟩
  | .ok packet =>
    let more := readAll (Packet.read.run source).2
    ⟨packet :: more.packets, more.error, more.left⟩
termination_by source.octets.length
decreasing_by exact length_octets_read_lt _h

theorem readAll_of_error {source : Source} {error : Error}
    (h : (Packet.read.run source).1.outcome = .error error) :
    readAll source = ⟨[], error, source⟩ := by
  rw [readAll]
  split
  · next hError =>
      rw [h] at hError
      cases hError
      rfl
  · next hOk =>
      rw [h] at hOk
      cases hOk

theorem readAll_of_ok {source : Source} {packet : Packet}
    (h : (Packet.read.run source).1.outcome = .ok packet) :
    readAll source =
      ⟨packet :: (readAll (Packet.read.run source).2).packets,
        (readAll (Packet.read.run source).2).error,
        (readAll (Packet.read.run source).2).left⟩ := by
  rw [readAll]
  split
  · next hError =>
      rw [h] at hError
      cases hError
  · next hOk =>
      rw [h] at hOk
      cases hOk
      rfl

/-- All packets in their frames, one after another. -/
def encodeAll (packets : List Packet) : Logged (List UInt8) :=
  match packets with
  | [] => return []
  | packet :: rest => do
    let first ← encode packet.tag packet.body
    let more ← encodeAll rest
    return first ++ more

theorem outcome_encodeAll {packets : List Packet}
    (short : ∀ packet ∈ packets, packet.body.length ≤ PacketHeader.maxBodyLength) :
    (encodeAll packets).outcome = .ok (packets.flatMap framed) := by
  induction packets with
  | nil => rfl
  | cons packet rest ih =>
      obtain ⟨hPacket, hRest⟩ := List.forall_mem_cons.mp short
      rw [encodeAll, Logged.outcome_bind_of_ok (outcome_encode hPacket),
        Logged.outcome_bind_of_ok (ih hRest), List.flatMap_cons]
      rfl

/-- Reading the octets packet by packet, in whatever pieces they come, yields these packets, leaves
nothing and ends with an error of the format. -/
def SplitsInto (octets : List UInt8) (packets : List Packet) : Prop :=
  ∀ source, source.octets = octets → source.ending = .endOfData →
    (readAll source).packets = packets ∧ (readAll source).left.octets = [] ∧
      (readAll source).error.kind = .format

/-- Frames behind each other are read as their packets. -/
theorem splitsInto_flatMap_framed {packets : List Packet} (fits : ∀ packet ∈ packets, packet.Fits) :
    SplitsInto (packets.flatMap framed) packets := by
  induction packets with
  | nil =>
      intro source hOctets hEnding
      cases hRead : (Packet.read.run source).1.outcome with
      | ok packet =>
          have hLess := length_octets_read_lt hRead
          rw [hOctets] at hLess
          cases hLess
      | error error =>
          rw [readAll_of_error hRead]
          exact ⟨rfl, hOctets, (failsAsFormat_read source hEnding).2 error hRead⟩
  | cons packet rest ih =>
      intro source hOctets hEnding
      obtain ⟨hPacket, hRest⟩ := List.forall_mem_cons.mp fits
      rw [List.flatMap_cons] at hOctets
      obtain ⟨hRead, hLeft, hLast⟩ := consumes_read hPacket source _ hOctets
      obtain ⟨hPackets, hNothing, hKind⟩ := ih hRest _ hLeft (hLast.trans hEnding)
      rw [readAll_of_ok hRead]
      exact ⟨congrArg (packet :: ·) hPackets, hNothing, hKind⟩

/-- What was read until reading failed stood there in frames. -/
theorem octets_eq_append_readAll (source : Source) :
    source.octets = (readAll source).packets.flatMap framed ++ (readAll source).left.octets ∧
      ∀ packet ∈ (readAll source).packets, packet.Fits := by
  induction source using readAll.induct with
  | case1 source error hRead =>
      rw [readAll_of_error hRead]
      exact ⟨rfl, List.forall_mem_nil _⟩
  | case2 source packet hRead ih =>
      obtain ⟨_, hFront, rfl, hFits⟩ := accepts_read source packet hRead
      obtain ⟨hOctets, hMore⟩ := ih
      rw [readAll_of_ok hRead]
      refine ⟨?_, List.forall_mem_cons.mpr ⟨hFits, hMore⟩⟩
      rw [List.flatMap_cons, List.append_assoc, ← hOctets]
      exact hFront

/-- Only a body that is too long is not framed. -/
theorem outcome_encode_eq_error_iff {tag : Tag} {body : List UInt8} {error : Error} :
    (encode tag body).outcome = .error error ↔
      255 < body.length ∧ error = .oversizedBody body.length 255 ∧ error.kind = .encoding := by
  constructor
  · intro h
    by_cases hFits : body.length ≤ PacketHeader.maxBodyLength
    · rw [outcome_encode hFits] at h
      cases h
    · have hLong : PacketHeader.maxBodyLength < body.length := by omega
      rw [outcome_encode_of_lt hLong] at h
      cases h
      exact ⟨hLong, rfl, rfl⟩
  · rintro ⟨hLong, rfl, -⟩
    exact outcome_encode_of_lt hLong

/-- The packet as it is read back. A tag that was asked for by the number of a type with a name is read as
the one with the name. -/
def asRead (packet : Packet) : Packet :=
  ⟨.ofId packet.tag.id, packet.body⟩

theorem asRead_eq_iff {packet : Packet} :
    packet.asRead = packet ↔ ∀ id, packet.tag = .other id → id ∉ Tag.namedIds := by
  rw [← Tag.ofId_id_iff]
  exact ⟨fun h => congrArg Packet.tag h, fun h => congrArg (Packet.mk · packet.body) h⟩

/-- A list is read back as it is unless a tag in it was asked for by such a number. -/
theorem map_asRead_eq_iff {packets : List Packet} : packets.map asRead = packets ↔
    ∀ packet ∈ packets, ∀ id, packet.tag = .other id → id ∉ Tag.namedIds := by
  induction packets with
  | nil => simp
  | cons packet rest ih =>
      rw [List.map_cons, List.cons.injEq, asRead_eq_iff, ih, List.forall_mem_cons]

/-- Only the id of a tag is written. -/
theorem framed_asRead (packet : Packet) : packet.asRead.framed = packet.framed := by
  rw [framed, framed, PacketHeader.encode, PacketHeader.encode, Tag.headerOctet, Tag.headerOctet,
    asRead, Tag.id_ofId]

theorem fits_asRead {packet : Packet} (tag_lt : packet.tag.id < 64)
    (length_le : packet.body.length ≤ 255) : packet.asRead.Fits := by
  refine ⟨?_, length_le⟩
  have hTag : packet.asRead.tag.id = packet.tag.id := Tag.id_ofId _
  rw [Tag.ofHeaderOctet_headerOctet_of_lt (hTag ▸ tag_lt), hTag]
  rfl

/-- Packets are written as those that are read back. -/
theorem outcome_encodeAll_asRead {packets : List Packet}
    (short : ∀ packet ∈ packets, packet.body.length ≤ 255) :
    (encodeAll packets).outcome = .ok ((packets.map asRead).flatMap framed) := by
  rw [outcome_encodeAll short, List.flatMap_map]
  exact congrArg (fun frame => Except.ok (packets.flatMap frame)) (funext framed_asRead).symm

/-- Framing is a lossless code, up to the way that a tag is given, and both readers agree on it. Packets
with tags below 64 and bodies of at most 255 octets are written, and then read one after another, up to
an error of the format at the end. They are the packets that were written, except that a tag which was
asked for by the number of a type with a name comes back as the one with the name. The packets of any
source, up to the first failure, are written as the octets they were read from. On octets that end for
good, splitting a packet off and reading one either both succeed, with the same packet and the same octets
left, or both fail with an error of the format. Nothing but a body of more than 255 octets is refused when
packets are written. -/
theorem readAll_encodeAll :
    (∀ packets : List Packet, (∀ packet ∈ packets, packet.tag.id < 64 ∧ packet.body.length ≤ 255) →
      ∃ octets, (encodeAll packets).outcome = .ok octets ∧ SplitsInto octets (packets.map asRead) ∧
        Stream octets (packets.map asRead) ∧
        (packets.map asRead = packets ↔
          ∀ packet ∈ packets, ∀ id, packet.tag = .other id → id ∉ Tag.namedIds)) ∧
    (∀ source, ∃ octets, (encodeAll (readAll source).packets).outcome = .ok octets ∧
      source.octets = octets ++ (readAll source).left.octets) ∧
    (∀ octets source, source.octets = octets → source.ending = .endOfData →
      (∃ packet, (decode octets).1.outcome = .ok packet ∧
        (Packet.read.run source).1.outcome = .ok packet ∧
        (Packet.read.run source).2.octets = (decode octets).2) ∨
      (∃ error error', (decode octets).1.outcome = .error error ∧
        (Packet.read.run source).1.outcome = .error error' ∧
        error.kind = .format ∧ error'.kind = .format)) ∧
    (∀ tag body error, (encode tag body).outcome = .error error ↔
      255 < body.length ∧ error = .oversizedBody body.length 255 ∧ error.kind = .encoding) := by
  refine ⟨fun packets hPackets => ?_, fun source => ?_, ?_,
    fun _ _ _ => outcome_encode_eq_error_iff⟩
  · have hFits : ∀ packet ∈ packets.map asRead, packet.Fits := by
      intro _ hMem
      obtain ⟨packet, hPacket, rfl⟩ := List.mem_map.mp hMem
      exact fits_asRead (hPackets packet hPacket).1 (hPackets packet hPacket).2
    refine ⟨_, outcome_encodeAll_asRead fun packet hPacket => (hPackets packet hPacket).2,
      splitsInto_flatMap_framed hFits, stream_flatMap_framed hFits, ?_⟩
    exact map_asRead_eq_iff
  · obtain ⟨hOctets, hFits⟩ := octets_eq_append_readAll source
    exact ⟨_, outcome_encodeAll fun packet hPacket => (hFits packet hPacket).length_le, hOctets⟩
  · rintro _ source rfl hEnding
    exact decode_agrees_read hEnding

/-- A packet without a body is read back behind another one, a body that is cut off is refused by both
readers, and a body of 256 octets is not written. -/
theorem readAll_encodeAll_pair :
    (∃ octets, (encodeAll [⟨.userId, [0x61]⟩, ⟨.other 0, []⟩]).outcome = .ok octets ∧
      (readAll (.ofOctets octets)).packets = [⟨.userId, [0x61]⟩, ⟨.other 0, []⟩]) ∧
    (∃ error error', (decode [0xCD, 2, 0x61]).1.outcome = .error error ∧
      (Packet.read.run (.ofOctets [0xCD, 2, 0x61])).1.outcome = .error error' ∧
      error.kind = .format ∧ error'.kind = .format) ∧
    (encode .userId (List.replicate 256 0x61)).outcome = .error (.oversizedBody 256 255) := by
  obtain ⟨hWritten, -, hAgree, hRefused⟩ := readAll_encodeAll
  refine ⟨?_, ?_, ?_⟩
  · obtain ⟨octets, hOctets, hSplit, -⟩ := hWritten [⟨.userId, [0x61]⟩, ⟨.other 0, []⟩] (by decide)
    exact ⟨octets, hOctets, (hSplit _ (Source.octets_ofOctets octets) rfl).1⟩
  · obtain ⟨packet, hDecode, -⟩ | hFail :=
      hAgree [0xCD, 2, 0x61] (.ofOctets [0xCD, 2, 0x61]) rfl rfl
    · cases hDecode
    · exact hFail
  · have hLength : (List.replicate 256 (0x61 : UInt8)).length = 256 := List.length_replicate
    refine (hRefused .userId _ _).mpr ?_
    rw [hLength]
    exact ⟨by decide, rfl, rfl⟩

/-- A tag below 64 that is not read back: a packet of the type 6, asked for by its number, is read as a
public key. -/
theorem encodeAll_other_named :
    (∀ packet ∈ [(⟨.other 6, [0x61]⟩ : Packet)], packet.tag.id < 64 ∧ packet.body.length ≤ 255) ∧
    (encodeAll [⟨.other 6, [0x61]⟩]).outcome = .ok [0xC6, 1, 0x61] ∧
    (readAll (.ofOctets [0xC6, 1, 0x61])).packets = [⟨.publicKey, [0x61]⟩] ∧
    (readAll (.ofOctets [0xC6, 1, 0x61])).packets ≠ [⟨.other 6, [0x61]⟩] := by
  have hFits : ∀ packet ∈ [(⟨.publicKey, [0x61]⟩ : Packet)], packet.Fits := by
    rw [List.forall_mem_singleton]
    exact ⟨rfl, by decide⟩
  have hRead := (splitsInto_flatMap_framed hFits (.ofOctets [0xC6, 1, 0x61]) rfl rfl).1
  refine ⟨by decide, rfl, hRead, ?_⟩
  rw [hRead]
  decide

end Packet

end PhraseKey
