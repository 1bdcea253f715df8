import PhraseKey.Proofs.IntegerReading
import PhraseKey.Signature

/-!
Signatures as another reader takes them apart. The program itself reads no signatures, so the reader
here is that of the other side: it knows only the octets, and takes only integers in their canonical
form. A list of subpackets is determined by its octets alone, without their length in front.
-/

namespace PhraseKey

def Features.ofOctet? (octet : UInt8) : Option Features :=
  if octet &&& 0xFE = 0 then some ⟨octet &&& 1 ≠ 0⟩ else none

theorem Features.ofOctet?_octet (features : Features) :
    ofOctet? features.octet = some features := by
  rcases features with ⟨detectsModification⟩
  cases detectsModification <;> rfl

namespace Subpacket

/-- The statement of a given type in the body of a subpacket. -/
def ofBody? (type : SubpacketType) (body : List UInt8) : Option Subpacket :=
  if type = .creationTime then
    (Octets.ofList? 4 body).map fun octets => creationTime ⟨UInt32.ofNat (ofBigEndian octets.toList)⟩
  else if type = .issuer then
    (Octets.ofList? 8 body).map fun octets => issuer ⟨octets⟩
  else if type = .keyFlags then
    match body with
    | [octet] => some (keyFlags ⟨octet⟩)
    | _ => none
  else if type = .features then
    match body with
    | [octet] => (Features.ofOctet? octet).map features
    | _ => none
  else none

/-- The type of a statement is the one that is found for its id. -/
theorem ofId_id_type (subpacket : Subpacket) : .ofId subpacket.type.id = subpacket.type := by
  cases subpacket <;> rfl

theorem ofBody?_body (subpacket : Subpacket) :
    ofBody? subpacket.type subpacket.body = some subpacket := by
  cases subpacket with
  | creationTime time =>
      have hOctets : Octets.ofList? 4 time.encode = some ⟨time.encode, time.length_encode⟩ :=
        Octets.ofList?_toList ⟨time.encode, time.length_encode⟩
      have hSeconds : UInt32.ofNat (ofBigEndian time.encode) = time.seconds := by
        rw [Timestamp.encode, ofBigEndian_bigEndian]
        exact UInt32.toNat_inj.mp (by simp)
      show ofBody? .creationTime time.encode = _
      unfold ofBody?
      rw [if_pos rfl, hOctets, Option.map_some, hSeconds]
  | issuer id =>
      change (Octets.ofList? 8 id.octets.toList).map _ = _
      rw [Octets.ofList?_toList]
      rfl
  | keyFlags flags => rfl
  | features supported =>
      change (Features.ofOctet? supported.octet).map features = _
      rw [Features.ofOctet?_octet]
      rfl

/-- All subpackets of an area. Each says its own length, and the last must end with the area. -/
def decodeAll (octets : List UInt8) : Option (List Subpacket) :=
  match octets with
  | [] => some []
  | [_] => none
  | length :: type :: rest =>
    if 1 ≤ length.toNat ∧ length.toNat - 1 ≤ rest.length then do
      let first ← ofBody? (.ofId type) (rest.take (length.toNat - 1))
      let others ← decodeAll (rest.drop (length.toNat - 1))
      return first :: others
    else none
termination_by octets.length
decreasing_by
  simp only [List.length_drop, List.length_cons]
  omega

/-- The first subpacket is split off, whatever follows it. -/
theorem decodeAll_encode_append (subpacket : Subpacket) (octets : List UInt8) :
    decodeAll (subpacket.encode ++ octets) = (decodeAll octets).map (subpacket :: ·) := by
  have hBound := subpacket.bodyLength_le
  have hLength : (UInt8.ofNat (1 + subpacket.bodyLength)).toNat - 1 = subpacket.bodyLength := by
    rw [UInt8.toNat_ofNat']
    omega
  have hFits : 1 ≤ (UInt8.ofNat (1 + subpacket.bodyLength)).toNat ∧
      subpacket.bodyLength ≤ (subpacket.body ++ octets).length := by
    rw [UInt8.toNat_ofNat', List.length_append, length_body]
    omega
  rw [encode, List.cons_append, List.cons_append, decodeAll, hLength, if_pos hFits,
    List.take_left' subpacket.length_body, List.drop_left' subpacket.length_body]
  change (ofBody? (.ofId subpacket.type.id) subpacket.body).bind _ = _
  rw [ofId_id_type, ofBody?_body]
  cases decodeAll octets <;> rfl

theorem decodeAll_encodeAll (subpackets : List Subpacket) :
    decodeAll (encodeAll subpackets) = some subpackets := by
  induction subpackets with
  | nil => simp [encodeAll, decodeAll]
  | cons subpacket rest ih =>
      rw [encodeAll, List.flatMap_cons, decodeAll_encode_append]
      rw [encodeAll] at ih
      rw [ih, Option.map_some]

/-- Lists of subpackets need no length to be told apart. -/
theorem encodeAll_injective : Function.Injective encodeAll := by
  intro first second h
  have hFirst := decodeAll_encodeAll first
  rw [h, decodeAll_encodeAll] at hFirst
  exact (Option.some.inj hFirst).symm

/-- The subpackets behind a length in two octets. -/
def parseArea (area : String) : Parser (List Subpacket) := do
  let length ← Parser.u16 (area ++ " length")
  let octets ← Parser.take area length.toNat
  Parser.ofOption (decodeAll octets) (.shortField area (.take length.toNat))

/-- Areas whose length does not wrap are read back. -/
theorem reads_encodeArea (area : String) {subpackets : List Subpacket}
    (fits : encodedLengthAll subpackets < 65536) :
    (parseArea area).Reads (encodeArea subpackets) subpackets := by
  have hLength : (encodeAll subpackets).length =
      (UInt16.ofNat (encodedLengthAll subpackets)).toNat := by
    rw [length_encodeAll, UInt16.toNat_ofNat']
    omega
  refine (Parser.reads_u16 _ (encodedLengthAll subpackets)).bind ?_
  refine (Parser.reads_take _ hLength).last ?_
  exact Parser.reads_ofOption (decodeAll_encodeAll subpackets) _

end Subpacket

/-- The statement as it is read back. Only the ids of its type and its algorithms are written, so each
of them is the one that is found for its id. -/
def Statement.asRead (statement : Statement) : Statement :=
  { statement with
    type := .ofId statement.type.id
    keyAlgorithm := .ofId statement.keyAlgorithm.id
    hash := .ofId statement.hash.id }

namespace Signature

def asRead (signature : Signature) : Signature :=
  { signature with statement := signature.statement.asRead }

/-- A signature of version 4 with two integers. -/
def parse : Parser Signature := do
  Parser.tag "signature version" [Statement.version]
  let type ← Parser.u8 "signature type"
  let keyAlgorithm ← Parser.u8 "public key algorithm"
  let hash ← Parser.u8 "hash algorithm"
  let hashed ← Subpacket.parseArea "hashed subpackets"
  let unhashed ← Subpacket.parseArea "unhashed subpackets"
  let digestStart ← Parser.array "digest start" 2
  let r ← Mpi.parseCanonical
  let s ← Mpi.parseCanonical
  return ⟨⟨.ofId type, .ofId keyAlgorithm, .ofId hash, hashed, unhashed⟩, digestStart, ⟨r, s⟩⟩

/-- A signature as the whole of a packet body. -/
def decode (body : List UInt8) : Except Error Signature :=
  (Parser.parse (do
    let signature ← parse
    Parser.finish .trailingData
    return signature) body).1

/-- No length of a signature wraps. -/
structure Fits (signature : Signature) : Prop where
  hashed_lt : Subpacket.encodedLengthAll signature.statement.hashed < 65536
  unhashed_lt : Subpacket.encodedLengthAll signature.statement.unhashed < 65536
  r_lt : signature.value.r.octets.length < 8192
  s_lt : signature.value.s.octets.length < 8192

theorem reads_encode {signature : Signature} (fits : signature.Fits) :
    parse.Reads signature.encode signature.asRead := by
  rcases signature with ⟨⟨type, keyAlgorithm, hash, hashed, unhashed⟩, digestStart, r, s⟩
  have hOctets : encode ⟨⟨type, keyAlgorithm, hash, hashed, unhashed⟩, digestStart, r, s⟩ =
      [Statement.version] ++ ([type.id] ++ ([keyAlgorithm.id] ++ ([hash.id] ++
        (Subpacket.encodeArea hashed ++ (Subpacket.encodeArea unhashed ++
          (digestStart.toList ++ (r.encode ++ s.encode))))))) := by
    simp [encode, Statement.head, SignatureValue.encode, encodeMpis]
  rw [hOctets]
  refine (Parser.reads_tag _ [Statement.version]).bind ?_
  refine (Parser.reads_u8 _ type.id).bind ?_
  refine (Parser.reads_u8 _ keyAlgorithm.id).bind ?_
  refine (Parser.reads_u8 _ hash.id).bind ?_
  refine (Subpacket.reads_encodeArea _ fits.hashed_lt).bind ?_
  refine (Subpacket.reads_encodeArea _ fits.unhashed_lt).bind ?_
  refine (Parser.reads_array _ digestStart).bind ?_
  refine (Mpi.reads_encode_canonical r fits.r_lt).bind ?_
  exact (Mpi.reads_encode_canonical s fits.s_lt).last (Parser.reads_pure _)

theorem decode_encode {signature : Signature} (fits : signature.Fits) :
    decode signature.encode = .ok signature.asRead := by
  rw [decode, (reads_encode fits).parse_finish]

end Signature

end PhraseKey
