import PhraseKey.Proofs.InputArrival

/-!
Streams stay aligned. All that can go wrong with a packet comes after it was taken, so every call that
reads one leaves the source in front of the next, whatever its result. Only a key file reads on, and only
behind a key.
-/

namespace PhraseKey

namespace Packet

/-- A packet as it is delimited in a stream: a header octet with both format bits, a length octet and a
body of that length. -/
inductive IsFrame : List UInt8 → Prop where
  | mk {first length : UInt8} {body : List UInt8} (format : first &&& 0xC0 = 0xC0)
      (length_eq : body.length = length.toNat) : IsFrame (first :: length :: body)

theorem Fits.isFrame {packet : Packet} (fits : packet.Fits) : IsFrame packet.framed :=
  .mk packet.tag.headerOctet_and fits.toNat_length.symm

variable {frame rest : List UInt8}

/-- There is a packet in every frame. -/
theorem IsFrame.exists_framed (h : IsFrame frame) :
    ∃ packet : Packet, packet.Fits ∧ packet.framed = frame := by
  obtain @⟨first, length, body, format, hLength⟩ := h
  have hBound := length.toNat_lt
  refine ⟨⟨.ofHeaderOctet first, body⟩, ⟨Tag.ofHeaderOctet_headerOctet_ofHeaderOctet first, ?_⟩, ?_⟩
  · change body.length ≤ 255
    omega
  · simp [framed, PacketHeader.encode, Tag.headerOctet_ofHeaderOctet format, hLength]

/-- A frame does not end inside of its packet. -/
theorem IsFrame.not_endsInside (h : IsFrame frame) : ¬EndsInside frame := by
  obtain ⟨format, hLength⟩ := h
  simp [EndsInside]
  omega

/-- Reading a packet takes a frame and nothing behind it. -/
theorem IsFrame.octets_read (h : IsFrame frame) {source : Source}
    (hOctets : source.octets = frame ++ rest) : (Packet.read.run source).2.octets = rest := by
  obtain ⟨packet, hFits, rfl⟩ := h.exists_framed
  exact (consumes_read hFits source rest hOctets).2.1

end Packet

namespace Reading

variable {α : Type}

/-- Octets that are enough are read alike, whatever follows them. -/
theorem RunsShortOn.logged_append {reading : Reading α} {short : List UInt8 → Prop}
    (hReading : reading.RunsShortOn short) {octets rest : List UInt8} (hEnough : ¬short octets)
    {source : Source} (hOctets : source.octets = octets ++ rest) :
    (reading.run source).1 = (reading.run (.ofOctets octets)).1 := by
  -- the same input, cut where the octets end, so that nothing behind them is asked for
  have hSame : source.SameInput
      ⟨Delivery.ofOctets octets ++ Delivery.ofOctets rest, source.ending⟩ := by
    constructor
    · rw [hOctets]
      simp [Source.octets]
    · rfl
  rw [← Delivery.flatMap_octets_ofOctets octets] at hEnough
  obtain ⟨logged, kept, hDone⟩ := hReading.isDone hEnough
  rw [hReading.logged_eq hSame, hDone, Source.ofOctets, hDone.run_eq]

end Reading

/-- A call that takes a packet from a source. -/
inductive PacketCall where
  | packet
  | tagged (expected : Tag)
  | userId
  | signingKey
  | subkey
  deriving DecidableEq

namespace PacketCall

/-- What the call comes back with if it succeeds. -/
abbrev Value : PacketCall → Type
  | packet => Packet
  | tagged _ => List UInt8
  | userId => UserId
  | signingKey => SigningKey
  | subkey => EncryptionSubkey

def reading : (call : PacketCall) → Reading call.Value
  | packet => Packet.read
  | tagged expected => Packet.readTagged expected
  | userId => UserId.read
  | signingKey => SigningKey.read
  | subkey => EncryptionSubkey.read

/-- What is left of a source after these calls, one after another and whatever comes of them. -/
def leave (calls : List PacketCall) (source : Source) : Source :=
  calls.foldl (fun left call => (call.reading.run left).2) source

@[simp]
theorem leave_cons (call : PacketCall) (calls : List PacketCall) (source : Source) :
    leave (call :: calls) source = leave calls (call.reading.run source).2 :=
  rfl

theorem takesPacket (call : PacketCall) : call.reading.TakesPacket := by
  cases call with
  | packet => exact Packet.takesPacket_read
  | tagged expected => exact Packet.takesPacket_readTagged expected
  | userId => exact UserId.takesPacket_read
  | signingKey => exact SigningKey.takesPacket_read
  | subkey => exact EncryptionSubkey.takesPacket_read

/-- A call takes one frame, and its result is that of the frame alone. -/
theorem run_frame (call : PacketCall) {frame rest : List UInt8} (hFrame : Packet.IsFrame frame)
    {source : Source} (hOctets : source.octets = frame ++ rest) :
    (call.reading.run source).1 = (call.reading.run (.ofOctets frame)).1 ∧
      (call.reading.run source).2.octets = rest := by
  refine ⟨call.takesPacket.runsShortOn.logged_append hFrame.not_endsInside hOctets, ?_⟩
  rw [call.takesPacket.run_snd, hFrame.octets_read hOctets]

/-- Nothing is left of a source that has nothing. -/
theorem octets_run_nil (call : PacketCall) {source : Source} (hOctets : source.octets = []) :
    (call.reading.run source).2.octets = [] := by
  have hShort : Packet.EndsInside (source.deliveries.flatMap Delivery.octets) := by
    change Packet.EndsInside source.octets
    rw [hOctets]
    trivial
  rw [(call.takesPacket.runsShortOn.runsShort hShort source.ending).2]
  rfl

/-- Every call takes a frame as long as there are any. -/
theorem octets_leave (calls : List PacketCall) {frames : List (List UInt8)}
    (hFrames : ∀ frame ∈ frames, Packet.IsFrame frame) {source : Source}
    (hOctets : source.octets = frames.flatten) :
    (leave calls source).octets = (frames.drop calls.length).flatten := by
  induction calls generalizing frames source with
  | nil => exact hOctets
  | cons call calls ih =>
      cases frames with
      | nil =>
          -- more calls than frames: nothing is left, and stays so
          simpa using ih hFrames (call.octets_run_nil hOctets)
      | cons frame frames =>
          obtain ⟨hFrame, hMore⟩ := List.forall_mem_cons.mp hFrames
          exact ih hMore (call.run_frame hFrame hOctets).2

end PacketCall

namespace Certificate

variable {first second rest : List UInt8} {source : Source}

/-- A packet that is not a key is all that is taken. -/
theorem run_readKeyFile_of_error (hFirst : Packet.IsFrame first)
    (hOctets : source.octets = first ++ rest) {error : Error}
    (hError : (SigningKey.read.run (.ofOctets first)).1.outcome = .error error) :
    (readKeyFile.run source).1.outcome = .error error ∧
      (readKeyFile.run source).2.octets = rest := by
  obtain ⟨hLogged, hLeft⟩ := PacketCall.signingKey.run_frame hFirst hOctets
  have hFails : (SigningKey.read.run source).1.outcome = .error error := by
    rw [← hError]
    exact congrArg Logged.outcome hLogged
  rw [readKeyFile, Reading.run_bind_of_error hFails]
  exact ⟨rfl, hLeft⟩

/-- Behind a key one more packet is taken, and its user id is all that is still needed. -/
theorem run_readKeyFile_of_ok (hFirst : Packet.IsFrame first) (hSecond : Packet.IsFrame second)
    (hOctets : source.octets = first ++ (second ++ rest)) {key : SigningKey}
    (hKey : (SigningKey.read.run (.ofOctets first)).1.outcome = .ok key) :
    (readKeyFile.run source).1.outcome =
        (UserId.read.run (.ofOctets second)).1.outcome.map (fun userId => ⟨key, userId, none⟩) ∧
      (readKeyFile.run source).2.octets = rest := by
  obtain ⟨hLogged, hLeft⟩ := PacketCall.signingKey.run_frame hFirst hOctets
  obtain ⟨hLogged', hLeft'⟩ := PacketCall.userId.run_frame hSecond hLeft
  have hLoads : (SigningKey.read.run source).1.outcome = .ok key := by
    rw [← hKey]
    exact congrArg Logged.outcome hLogged
  have hUserId : (UserId.read.run (SigningKey.read.run source).2).1.outcome =
      (UserId.read.run (.ofOctets second)).1.outcome := congrArg Logged.outcome hLogged'
  rw [readKeyFile, Reading.run_bind_of_ok hLoads]
  dsimp only
  cases hOutcome : (UserId.read.run (.ofOctets second)).1.outcome with
  | error error =>
      rw [Reading.run_bind_of_error (hUserId.trans hOutcome)]
      exact ⟨rfl, hLeft'⟩
  | ok userId =>
      rw [Reading.run_bind_of_ok (hUserId.trans hOutcome)]
      exact ⟨rfl, hLeft'⟩

end Certificate

/-- Failed reads keep a stream aligned. After any calls on a stream of packets the source stands in front
of the packet behind those that were called for. The next call takes that packet, whether it succeeds or
fails, and comes to the result that it has on this packet alone. A key file takes one packet if that is
not a key, and otherwise takes a second one, whether there is a user id in it or not. -/
theorem calls_stay_aligned {frames : List (List UInt8)}
    (hFrames : ∀ frame ∈ frames, Packet.IsFrame frame) {source : Source}
    (hOctets : source.octets = frames.flatten) (calls : List PacketCall) :
    let left := PacketCall.leave calls source
    left.octets = (frames.drop calls.length).flatten ∧
      (∀ (call : PacketCall) frame rest, frames.drop calls.length = frame :: rest →
        (call.reading.run left).1 = (call.reading.run (.ofOctets frame)).1 ∧
          (call.reading.run left).2.octets = rest.flatten) ∧
      (∀ frame rest error, frames.drop calls.length = frame :: rest →
        (SigningKey.read.run (.ofOctets frame)).1.outcome = .error error →
        (Certificate.readKeyFile.run left).1.outcome = .error error ∧
          (Certificate.readKeyFile.run left).2.octets = rest.flatten) ∧
      ∀ first second rest key, frames.drop calls.length = first :: second :: rest →
        (SigningKey.read.run (.ofOctets first)).1.outcome = .ok key →
        (Certificate.readKeyFile.run left).1.outcome =
            (UserId.read.run (.ofOctets second)).1.outcome.map (fun userId => ⟨key, userId, none⟩) ∧
          (Certificate.readKeyFile.run left).2.octets = rest.flatten := by
  intro left
  have hLeft : left.octets = (frames.drop calls.length).flatten :=
    PacketCall.octets_leave calls hFrames hOctets
  have hNext : ∀ frame ∈ frames.drop calls.length, Packet.IsFrame frame :=
    fun frame h => hFrames frame (List.mem_of_mem_drop h)
  refine ⟨hLeft, ?_, ?_, ?_⟩
  · intro call frame rest hDrop
    rw [hDrop] at hLeft hNext
    exact call.run_frame (hNext frame List.mem_cons_self) hLeft
  · intro frame rest error hDrop hError
    rw [hDrop] at hLeft hNext
    exact Certificate.run_readKeyFile_of_error (hNext frame List.mem_cons_self) hLeft hError
  · intro first second rest key hDrop hKey
    rw [hDrop] at hLeft hNext
    obtain ⟨hFirst, hMore⟩ := List.forall_mem_cons.mp hNext
    exact Certificate.run_readKeyFile_of_ok hFirst (hMore second List.mem_cons_self) hLeft hKey

/-- Four calls in a row fail, for the tag of what they find or for its body, and the fifth finds the user
id behind all of that. Two key files are refused, one at its first packet and one at its second. -/
theorem calls_stay_aligned_failed :
    let frames := [[0xCD, 0x01, 0x61], SigningKey.zero.stored.framed, [0xC5, 0x00], [0xFC, 0x00],
      [0xCD, 0x01, 0x62]]
    let source := Source.oneByOne frames.flatten .endOfData
    let left := PacketCall.leave [.signingKey, .subkey, .signingKey, .tagged .signature] source
    (SigningKey.read.run source).1.outcome = .error (.unexpectedPacket .secretKey .userId) ∧
      left.octets = [0xCD, 0x01, 0x62] ∧
      (UserId.read.run left).1.outcome = .ok (.plain [0x62]) ∧ (UserId.read.run left).2.octets = [] ∧
      (Certificate.readKeyFile.run source).1.outcome =
        .error (.unexpectedPacket .secretKey .userId) ∧
      (Certificate.readKeyFile.run source).2.octets =
        SigningKey.zero.stored.framed ++ [0xC5, 0x00, 0xFC, 0x00, 0xCD, 0x01, 0x62] ∧
      (Certificate.readKeyFile.run (PacketCall.leave [.userId] source)).1.outcome =
        .error (.unexpectedPacket .userId .secretKey) ∧
      (Certificate.readKeyFile.run (PacketCall.leave [.userId] source)).2.octets =
        [0xFC, 0x00, 0xCD, 0x01, 0x62] := by
  intro frames source left
  have hFrames : ∀ frame ∈ frames, Packet.IsFrame frame := by
    have hKey := SigningKey.zero.fits_stored.isFrame
    have hFirst : Packet.IsFrame [0xCD, 0x01, 0x61] := .mk (by decide) rfl
    have hEmpty : Packet.IsFrame [0xC5, 0x00] := .mk (by decide) rfl
    have hOther : Packet.IsFrame [0xFC, 0x00] := .mk (by decide) rfl
    have hLast : Packet.IsFrame [0xCD, 0x01, 0x62] := .mk (by decide) rfl
    simp [frames, hKey, hFirst, hEmpty, hOther, hLast]
  have hOctets : source.octets = frames.flatten := Source.octets_oneByOne _ _
  have hKey : (SigningKey.read.run (.ofOctets SigningKey.zero.stored.framed)).1.outcome =
      .ok .zero := (SigningKey.zero.consumes_read _ [] (Source.octets_ofOctets_nil _)).1
  obtain ⟨-, hCall, hFile, -⟩ := calls_stay_aligned hFrames hOctets []
  obtain ⟨hRead, -⟩ := hCall .signingKey _ _ rfl
  obtain ⟨hFails, hRest⟩ := hFile _ _ (.unexpectedPacket .secretKey .userId) rfl rfl
  obtain ⟨-, -, -, hSecond⟩ := calls_stay_aligned hFrames hOctets [.userId]
  obtain ⟨hRefused, hTaken⟩ := hSecond _ _ _ _ rfl hKey
  obtain ⟨hLeft, hUserId, -⟩ := calls_stay_aligned hFrames hOctets
    [.signingKey, .subkey, .signingKey, .tagged .signature]
  obtain ⟨hFound, hNothing⟩ := hUserId .userId _ _ rfl
  exact ⟨congrArg Logged.outcome hRead, hLeft, congrArg Logged.outcome hFound, hNothing, hFails,
    hRest, hRefused, hTaken⟩

end PhraseKey
