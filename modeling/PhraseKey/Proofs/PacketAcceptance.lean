import PhraseKey.Proofs.PacketReading

/-!
Packets that were accepted. A reading that succeeds has consumed some octets of its source, in whatever
pieces they came, and a packet that was read was consumed in its frame.
-/

namespace PhraseKey

namespace Reading

variable {α β : Type}

/-- Whenever the reading succeeds, what it consumed has this form for its value. -/
def Accepts (reading : Reading α) (form : List UInt8 → α → Prop) : Prop :=
  ∀ source value, (reading.run source).1.outcome = .ok value →
    ∃ front, source.octets = front ++ (reading.run source).2.octets ∧ form front value

theorem accepts_pure {form : List UInt8 → α → Prop} {value : α} (h : form [] value) :
    (pure value : Reading α).Accepts form := by
  rintro source _ ⟨⟩
  exact ⟨[], rfl, h⟩

/-- The form of what follows is that of the whole, behind what was consumed first. -/
theorem Accepts.bind {first : Reading α} {next : α → Reading β} {form : List UInt8 → α → Prop}
    {whole : List UInt8 → β → Prop} (hFirst : first.Accepts form)
    (hNext : ∀ front value, form front value →
      (next value).Accepts fun back result => whole (front ++ back) result) :
    (first >>= next).Accepts whole := by
  intro source result h
  cases hOutcome : (first.run source).1.outcome with
  | error error =>
      rw [run_bind_of_error hOutcome] at h
      cases h
  | ok value =>
      rw [run_bind_of_ok hOutcome] at h ⊢
      obtain ⟨front, hFront, hForm⟩ := hFirst source value hOutcome
      obtain ⟨back, hBack, hWhole⟩ := hNext front value hForm (first.run source).2 result h
      refine ⟨front ++ back, ?_, hWhole⟩
      rw [hFront, hBack, List.append_assoc]

/-- What reads nothing, in front of what does. -/
theorem Accepts.after {first : Reading α} {next : α → Reading β} {holds : α → Prop}
    {whole : List UInt8 → β → Prop}
    (hFirst : first.Accepts fun front value => front = [] ∧ holds value)
    (hNext : ∀ value, holds value → (next value).Accepts whole) :
    (first >>= next).Accepts whole := by
  refine hFirst.bind ?_
  rintro _ value ⟨rfl, hHolds⟩
  exact hNext value hHolds

/-- What reads nothing consumes nothing. -/
theorem accepts_ofLogged (logged : Logged α) :
    (ofLogged logged).Accepts fun front value => front = [] ∧ logged.outcome = .ok value :=
  fun _ _ h => ⟨[], rfl, rfl, h⟩

theorem accepts_ofExcept (outcome : Except Error α) :
    (ofLogged (.ofExcept outcome)).Accepts fun front value => front = [] ∧ outcome = .ok value :=
  accepts_ofLogged (.ofExcept outcome)

/-- A condition that is insisted on holds. -/
theorem accepts_ensure (condition : Prop) [Decidable condition] (error : Error) :
    (ensure condition error).Accepts fun front _ => front = [] ∧ condition := by
  rw [ensure]
  split
  · next holds => exact accepts_pure ⟨rfl, holds⟩
  · rintro source _ ⟨⟩

end Reading

/-- An octet with both format bits is the header octet of its tag. -/
theorem Tag.headerOctet_ofHeaderOctet {octet : UInt8} (format : octet &&& 0xC0 = 0xC0) :
    (ofHeaderOctet octet).headerOctet = octet := by
  have hOctet : ∀ b : BitVec 8, b &&& 0xC0 = 0xC0 → 0xC0 ||| b &&& 0x3F &&& 0x3F = b := by decide
  rw [headerOctet, ofHeaderOctet, id_ofId]
  exact UInt8.toBitVec_inj.mp (hOctet octet.toBitVec (UInt8.toBitVec_inj.mpr format))

/-- A tag that was found in an octet is found again in its own header octet. -/
theorem Tag.ofHeaderOctet_headerOctet_ofHeaderOctet (octet : UInt8) :
    ofHeaderOctet (ofHeaderOctet octet).headerOctet = ofHeaderOctet octet := by
  rw [ofHeaderOctet_headerOctet, ofHeaderOctet, id_ofId, UInt8.and_assoc, UInt8.and_self]

/-- A header that was accepted is written as the octets it was read from. -/
theorem PacketHeader.encode_of_ofOctets {first length : UInt8} {header : PacketHeader}
    (h : ofOctets first length = .ok header) :
    header.encode = [first, length] ∧ .ofHeaderOctet header.tag.headerOctet = header.tag := by
  rw [ofOctets] at h
  split at h
  · next format =>
      cases h
      exact ⟨by rw [encode, Tag.headerOctet_ofHeaderOctet format],
        Tag.ofHeaderOctet_headerOctet_ofHeaderOctet first⟩
  · cases h

namespace Packet

theorem accepts_readOctets (n : Nat) :
    (readOctets n).Accepts fun front octets => front = octets.toList := by
  intro source octets h
  by_cases hEnough : n ≤ source.octets.length
  · rw [run_readOctets_of_le hEnough] at h ⊢
    cases h
    refine ⟨source.octets.take n, ?_, rfl⟩
    rw [Source.octets_readExact_snd, List.take_append_drop]
  · rw [run_readOctets_of_lt (Nat.lt_of_not_le hEnough)] at h
    cases h

theorem accepts_readHeader :
    readHeader.Accepts fun front header =>
      front = header.encode ∧ .ofHeaderOctet header.tag.headerOctet = header.tag := by
  refine (accepts_readOctets 2).bind ?_
  rintro _ octets rfl
  match octets with
  | ⟨[first, length], _⟩ =>
      intro source header h
      obtain ⟨hEncode, hTag⟩ := PacketHeader.encode_of_ofOctets h
      exact ⟨[], rfl, by rw [hEncode, List.append_nil], hTag⟩

/-- A packet that was read was consumed in its frame. -/
theorem accepts_read : Packet.read.Accepts fun front packet => front = packet.framed ∧ packet.Fits := by
  refine accepts_readHeader.bind ?_
  rintro _ header ⟨rfl, hTag⟩
  refine (accepts_readOctets _).bind ?_
  rintro _ body rfl
  refine (Reading.accepts_ofLogged _).after fun _ _ => ?_
  have hLength : UInt8.ofNat body.toList.length = header.length := by
    rw [body.length_toList, UInt8.ofNat_toNat]
  refine Reading.accepts_pure ⟨?_, hTag, ?_⟩
  · rw [framed, hLength, List.append_nil]
  · rw [body.length_toList]
    have hBound := header.length.toNat_lt
    change _ ≤ 255
    omega

theorem accepts_readTagged (expected : Tag) :
    (readTagged expected).Accepts fun front body =>
      front = framed ⟨expected, body⟩ ∧ Fits ⟨expected, body⟩ := by
  refine accepts_read.bind ?_
  rintro _ packet ⟨rfl, hFits⟩
  refine (Reading.accepts_ensure _ _).after ?_
  rintro _ rfl
  refine Reading.accepts_pure ⟨?_, hFits⟩
  rw [List.append_nil]

end Packet

end PhraseKey
