import Mathlib.Data.List.Basic
import PhraseKey.Proofs.Base64Coding
import PhraseKey.Proofs.BlockText

/-!
Armor read back. What is written is the text of a block without headers, whichever way its lines end,
and what surrounds it does not matter as long as the text in front has no rule.
-/

namespace PhraseKey.Armor

open Scanner

variable {ending : List UInt8}

/-- The text of a block with these line endings. -/
def blockText (ending data : List UInt8) (type : BlockType) : List UInt8 :=
  (blockLines data type).flatMap (· ++ ending)

/-- The data behind the lines of the body. -/
def bodyPieces (data : List UInt8) : List (List UInt8) :=
  chunks 48 (((Base64.encode data).length + 64 - 1) / 64) data

theorem bodyLines_encode (data : List UInt8) :
    bodyLines (Base64.encode data) = (bodyPieces data).map Base64.encode :=
  Base64.chunks_encode _ data

theorem ne_nil_of_mem_bodyPieces {data piece : List UInt8} (h : piece ∈ bodyPieces data) :
    piece ≠ [] := by
  have hLength := Base64.length_encode data
  refine ne_nil_of_mem_chunks (by decide) ?_ h
  omega

theorem flatten_bodyPieces (data : List UInt8) :
    ((bodyPieces data).map Base64.encode).flatten = Base64.encode data := by
  rw [← bodyLines_encode]
  refine flatten_chunks _ _ _ ?_
  rw [lineLength]
  omega

theorem checksumOctets_ne_nil (data : List UInt8) : checksumOctets data ≠ [] := by
  have hLength : (checksumOctets data).length = 3 := length_bigEndian ..
  refine List.length_pos_iff.mp ?_
  rw [hLength]
  decide

/-- The checksum that is written for some data is that of the data. -/
theorem verifyChecksum_encode (data : List UInt8) :
    verifyChecksum (Base64.encode (checksumOctets data)) data = .ok () := by
  rw [verifyChecksum, Base64.decode_encode]
  change (if checksumOctets data = checksumOctets data then _ else _) = _
  rw [if_pos rfl]
  rfl

/-- The line for some octets of the data. -/
def symbolLine (hEnding : IsLineEnding ending) (octets : List UInt8) (hOctets : octets ≠ []) :
    SymbolLine where
  symbols := Base64.encode octets
  rest := hEnding.rest
  symbols_ne_nil := by
    obtain ⟨value, more, -, hEncode⟩ := Base64.exists_encode_cons hOctets
    exact hEncode ▸ List.cons_ne_nil _ _
  isSymbol := Base64.isBase64_of_mem_encode

theorem head_symbolLine (hEnding : IsLineEnding ending) {octets : List UInt8} (hOctets : octets ≠ []) :
    (symbolLine hEnding octets hOctets).symbols.head? ≠ some Base64.pad := by
  obtain ⟨value, more, hValue, hEncode⟩ := Base64.exists_encode_cons hOctets
  change (Base64.encode octets).head? ≠ some Base64.pad
  rw [hEncode, List.head?_cons]
  exact fun hPad => Base64.symbol_ne_pad hValue (Option.some.inj hPad)

/-- The body, with lines that end like this. -/
def bodyText (hEnding : IsLineEnding ending) (data : List UInt8) : List SymbolLine :=
  (bodyPieces data).pmap (symbolLine hEnding) fun _ => ne_nil_of_mem_bodyPieces

theorem map_symbols_bodyText (hEnding : IsLineEnding ending) (data : List UInt8) :
    (bodyText hEnding data).map SymbolLine.symbols = bodyLines (Base64.encode data) := by
  rw [bodyText, List.map_pmap, bodyLines_encode]
  exact List.pmap_eq_map ..

theorem flatMap_text_bodyText (hEnding : IsLineEnding ending) (data : List UInt8) :
    (bodyText hEnding data).flatMap SymbolLine.text =
      (bodyLines (Base64.encode data)).flatMap (· ++ ending) := by
  rw [← map_symbols_bodyText hEnding, List.flatMap_map]
  refine List.flatMap_congr fun line hLine => ?_
  obtain ⟨piece, hPiece, rfl⟩ := List.mem_pmap.mp hLine
  rfl

/-- What is written behind an opening. -/
def content (hEnding : IsLineEnding ending) (data : List UInt8) (type : BlockType) : Content where
  blank := hEnding.rest
  body := bodyText hEnding data
  checksum := some (symbolLine hEnding (checksumOctets data) (checksumOctets_ne_nil data))
  lastType := type
  lastEnding := ending
  body_head := by
    intro line hLine
    obtain ⟨piece, hPiece, rfl⟩ := List.mem_pmap.mp hLine
    exact head_symbolLine hEnding (ne_nil_of_mem_bodyPieces hPiece)
  lastEnding_cases := .inr hEnding

theorem text_content (hEnding : IsLineEnding ending) (data : List UInt8) (type : BlockType) :
    (content hEnding data type).text =
      ending ++ ((bodyLines (Base64.encode data)).flatMap (· ++ ending) ++
        ((checksumLine data ++ ending) ++ (endLine type ++ ending))) := by
  rw [← flatMap_text_bodyText hEnding]
  rfl

theorem parts_content (hEnding : IsLineEnding ending) (data : List UInt8) (type : BlockType)
    (headers : Headers) :
    (content hEnding data type).parts type headers =
      ⟨type, headers, Base64.encode data, some (Base64.encode (checksumOctets data)), type⟩ := by
  have hBody : ((bodyText hEnding data).map SymbolLine.symbols).flatten = Base64.encode data := by
    rw [map_symbols_bodyText, bodyLines_encode, flatten_bodyPieces]
  rw [← hBody]
  rfl

/-- The data of what is written are what was written. -/
theorem data_parts_content (hEnding : IsLineEnding ending) (data : List UInt8) (type : BlockType)
    (headers : Headers) : ((content hEnding data type).parts type headers).data = .ok data := by
  have hTypes : ¬ type ≠ type := fun h => h rfl
  rw [parts_content, Envelope.data, if_neg hTypes, Base64.decode_encode]
  change (verifyChecksum (Base64.encode (checksumOctets data)) data >>= fun _ => .ok data) = .ok data
  rw [verifyChecksum_encode]
  rfl

/-- A block is read back, wherever it stands. -/
theorem outcome_read_append (hEnding : IsLineEnding ending) {leading : List UInt8}
    (hRule : ¬ rule <:+: leading) (hHyphen : leading.getLast? ≠ some 45) (data : List UInt8)
    (type : BlockType) (trailing : List UInt8) :
    (read (leading ++ blockText ending data type ++ trailing)).outcome = .ok ⟨type, ⟨[]⟩, data⟩ := by
  let opening : Opening := ⟨leading, type, ending, hRule, hHyphen, hEnding⟩
  let block : BlockText := ⟨opening, [], content hEnding data type⟩
  have hText : leading ++ blockText ending data type = block.text := by
    simp only [block, opening, BlockText.text, Opening.text, HeaderLine.allText, text_content]
    simp [blockText, blockLines]
  have hRead : block.IsRead trailing := ⟨trivial, fun hNone => absurd hNone hEnding.ne_nil⟩
  have hData : block.parts.data = .ok data := data_parts_content hEnding data type _
  rw [hText, BlockText.outcome_read hRead, BlockText.outcome, hData]
  rfl

/-- Every line feed with a carriage return in front of it. -/
def withCarriageReturns (text : List UInt8) : List UInt8 :=
  text.flatMap fun octet => if octet = 10 then carriageReturnLineFeed else [octet]

/-- Something that can be printed in one line of ASCII text. -/
def IsPrintable (octet : UInt8) : Prop :=
  32 ≤ octet ∧ octet < 127

instance : DecidablePred IsPrintable := fun octet =>
  inferInstanceAs (Decidable (32 ≤ octet ∧ octet < 127))

theorem isPrintable_of_isBase64 {octet : UInt8} (h : isBase64 octet) : IsPrintable octet := by
  have hAll : ∀ b : BitVec 8, isBase64 ⟨b⟩ → IsPrintable ⟨b⟩ := by decide
  exact hAll octet.toBitVec h

/-- A line that is short enough, and printable. -/
structure IsTextLine (line : List UInt8) : Prop where
  length_le : line.length ≤ lineLength
  isPrintable : ∀ octet ∈ line, IsPrintable octet

theorem isTextLine_of_all {line : List UInt8} (hLength : line.length ≤ lineLength)
    (hAll : line.all IsPrintable) : IsTextLine line :=
  ⟨hLength, fun octet hOctet => of_decide_eq_true (List.all_eq_true.mp hAll octet hOctet)⟩

theorem isTextLine_of_mem_bodyLines {data line : List UInt8}
    (h : line ∈ bodyLines (Base64.encode data)) : IsTextLine line := by
  refine ⟨length_le_of_mem_chunks h, fun octet hOctet => ?_⟩
  rw [bodyLines_encode] at h
  obtain ⟨piece, -, rfl⟩ := List.mem_map.mp h
  exact isPrintable_of_isBase64 (Base64.isBase64_of_mem_encode octet hOctet)

theorem isTextLine_checksumLine (data : List UInt8) : IsTextLine (checksumLine data) := by
  have hLength : (checksumOctets data).length = 3 := length_bigEndian ..
  refine ⟨?_, List.forall_mem_cons.mpr ⟨isPrintable_of_isBase64 rfl, fun octet hOctet => ?_⟩⟩
  · rw [checksumLine, List.length_cons, Base64.length_encode, hLength]
    decide
  · exact isPrintable_of_isBase64 (Base64.isBase64_of_mem_encode octet hOctet)

/-- The lines of a block are short, and are printable. -/
theorem isTextLine_of_mem_blockLines {data line : List UInt8} {type : BlockType}
    (h : line ∈ blockLines data type) : IsTextLine line := by
  simp only [blockLines, List.cons_append, List.mem_cons, List.mem_append, List.not_mem_nil,
    or_false] at h
  obtain rfl | rfl | hBody | rfl | rfl := h
  · cases type <;> exact isTextLine_of_all (by decide) rfl
  · exact ⟨Nat.zero_le _, List.forall_mem_nil _⟩
  · exact isTextLine_of_mem_bodyLines hBody
  · exact isTextLine_checksumLine data
  · cases type <;> exact isTextLine_of_all (by decide) rfl

/-- A line has no line feed in it. -/
theorem IsTextLine.withCarriageReturns_append {line : List UInt8} (hLine : IsTextLine line) :
    withCarriageReturns (line ++ lineFeed) = line ++ carriageReturnLineFeed := by
  have hPlain : withCarriageReturns line = line := by
    rw [withCarriageReturns]
    refine (List.flatMap_congr fun octet hOctet => ?_).trans (List.flatMap_singleton' line)
    have hPrintable := hLine.isPrintable octet hOctet
    refine if_neg ?_
    rintro rfl
    exact absurd hPrintable.1 (by decide)
  rw [withCarriageReturns, List.flatMap_append]
  exact congrArg (· ++ carriageReturnLineFeed) hPlain

/-- Replacing the line feeds of a block ends its lines otherwise. -/
theorem withCarriageReturns_write (data : List UInt8) (type : BlockType) :
    withCarriageReturns (write data type) = blockText carriageReturnLineFeed data type := by
  rw [withCarriageReturns, write, List.flatMap_assoc]
  exact List.flatMap_congr fun line hLine =>
    (isTextLine_of_mem_blockLines hLine).withCarriageReturns_append

/-- Armor round trip in any surroundings. A block for any data, empty or not, is read back with its
type and without headers, behind text that has no rule in it and does not end in a hyphen, and in
front of anything, and so it is if all of its lines end in a carriage return and a line feed. A stream
of packets is written with the type of its first octet, and no line is longer than 64 characters. -/
theorem read_write (data : List UInt8) :
    (∀ (type : BlockType) (leading trailing : List UInt8), ¬ rule <:+: leading →
      leading.getLast? ≠ some 45 →
        (read (leading ++ write data type ++ trailing)).outcome = .ok ⟨type, ⟨[]⟩, data⟩ ∧
        (read (leading ++ withCarriageReturns (write data type) ++ trailing)).outcome =
          .ok ⟨type, ⟨[]⟩, data⟩) ∧
    (∀ first rest, data = first :: rest →
      ∃ type, BlockType.ofStream [first] = .ok type ∧ ofStream data = .ok (write data type)) ∧
    (∀ type, ∃ lines : List (List UInt8), write data type = lines.flatMap (· ++ [10]) ∧
      ∀ line ∈ lines, line.length ≤ 64 ∧ ∀ octet ∈ line, 32 ≤ octet ∧ octet < 127) := by
  refine ⟨fun type leading trailing hRule hHyphen => ⟨?_, ?_⟩, fun first rest hData => ?_,
    fun type => ⟨_, rfl, fun line hLine => ?_⟩⟩
  · exact outcome_read_append .lineFeed hRule hHyphen data type trailing
  · rw [withCarriageReturns_write]
    exact outcome_read_append .carriageReturnLineFeed hRule hHyphen data type trailing
  · subst hData
    exact ⟨_, rfl, rfl⟩
  · have hText := isTextLine_of_mem_blockLines hLine
    exact ⟨hText.length_le, hText.isPrintable⟩

/-- A block without data, and one with, among hyphens and colons. -/
theorem read_write_zero :
    (read (Text.toUtf8 "see: --\n" ++ write [] .message ++ Text.toUtf8 ": -----")).outcome =
      .ok ⟨.message, ⟨[]⟩, []⟩ ∧
    (read (Text.toUtf8 "see: --\n" ++ withCarriageReturns (write [0xC2, 0] .signature) ++
      Text.toUtf8 ": -----")).outcome = .ok ⟨.signature, ⟨[]⟩, [0xC2, 0]⟩ := by
  have hRule : ¬ rule <:+: Text.toUtf8 "see: --\n" := by decide
  have hHyphen : (Text.toUtf8 "see: --\n").getLast? ≠ some 45 := by decide
  exact ⟨((read_write []).1 .message _ _ hRule hHyphen).1,
    ((read_write [0xC2, 0]).1 .signature _ _ hRule hHyphen).2⟩

end PhraseKey.Armor
