import PhraseKey.Parser
import PhraseKey.Reading

/-!
Packet framing. A packet is a header octet with its tag, a single length octet and the body, so bodies
have at most 255 octets. Length octets from 192 on start a longer length for other readers, and are
written with a warning.
-/

namespace PhraseKey

/-- The two octets in front of a packet body. -/
structure PacketHeader where
  tag : Tag
  length : UInt8
  deriving DecidableEq

namespace PacketHeader

def maxBodyLength : Nat := 255

/-- Other readers take a first length octet from here on for the start of a longer one. -/
def firstAmbiguousLength : Nat := 192

/-- The header of a body of the given length. -/
def ofLength (tag : Tag) (length : Nat) : Logged PacketHeader := do
  if maxBodyLength < length then
    Logged.fail (.oversizedBody length maxBodyLength)
  if firstAmbiguousLength ≤ length then
    Logged.warn (tag.name ++ " packet body of " ++ toString length ++
      " bytes will not parse in other OpenPGP implementations")
  return ⟨tag, UInt8.ofNat length⟩

def encode (header : PacketHeader) : List UInt8 :=
  [header.tag.headerOctet, header.length]

def encodedLength : Nat := 2

@[simp]
theorem length_encode (header : PacketHeader) : header.encode.length = encodedLength := rfl

/-- A header octet must have both format bits set. -/
def ofOctets (first length : UInt8) : Except Error PacketHeader :=
  if first &&& 0xC0 = 0xC0 then .ok ⟨.ofHeaderOctet first, length⟩
  else .error (.unsupportedHeader first)

def parse : Parser PacketHeader := do
  let first ← Parser.u8 "packet header"
  let length ← Parser.u8 "packet length"
  ofOctets first length

end PacketHeader

/-- A packet without its framing. -/
structure Packet where
  tag : Tag
  body : List UInt8
  deriving DecidableEq

namespace Packet

/-- The framed packet. -/
def encode (tag : Tag) (body : List UInt8) : Logged (List UInt8) := do
  let header ← PacketHeader.ofLength tag body.length
  return header.encode ++ body

private def found (verb : String) (packet : Packet) : Logged Unit :=
  Logged.debug (verb ++ " " ++ packet.tag.name ++ " packet of " ++ toString packet.body.length ++
    " bytes")

/-- A packet at the front of an octet string. -/
def parse : Parser Packet := do
  let header ← PacketHeader.parse
  let body ← Parser.take "packet body" header.length.toNat
  return ⟨header.tag, body⟩

/-- Split the next packet off an octet string. -/
def decode (octets : List UInt8) : Logged Packet × List UInt8 :=
  let (outcome, rest) := parse.parse octets
  let logged := do
    let packet ← (outcome : Except Error Packet)
    found "decoded" packet
    return packet
  (logged, rest)

/-- Exactly `n` octets of a packet. A source that ends before them holds a truncated packet. -/
def readOctets (n : Nat) : Reading (Octets n) := fun source =>
  let (result, left) := source.readExact n
  let outcome := match result with
    | .ok octets => .ok octets
    | .error .endOfData => .error .truncatedPacket
    | .error (.failed failure) =>
      if failure.kind = .unexpectedEnd then .error .truncatedPacket else .error (.io failure)
  (.ofExcept outcome, left)

/-- The two octets of a header, and no more. -/
def readHeader : Reading PacketHeader := do
  let ⟨[first, length], _⟩ ← readOctets 2
  PacketHeader.ofOctets first length

/-- The next packet of a source, and nothing past its end. -/
def read : Reading Packet := do
  let header ← readHeader
  let body ← readOctets header.length.toNat
  let packet : Packet := ⟨header.tag, body.toList⟩
  found "read" packet
  return packet

/-- The body of the next packet, which must have the given tag. -/
def readTagged (expected : Tag) : Reading (List UInt8) := do
  let packet ← read
  Reading.ensure (packet.tag = expected) (.unexpectedPacket expected packet.tag)
  return packet.body

end Packet

end PhraseKey
