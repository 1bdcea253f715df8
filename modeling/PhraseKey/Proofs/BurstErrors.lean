import PhraseKey.Proofs.Armoring
import PhraseKey.Proofs.ChecksumBits
import PhraseKey.Proofs.OctetNumbers

/-!
Burst errors. The bits of a burst of at most 24 bits fit into the register, and neither the equal bits in
front of it nor those behind it make up for them. So no burst goes unnoticed, wherever it stands, and
armor with the checksum of damaged data is refused.
-/

namespace PhraseKey

namespace Crc24

/-- A difference that is zero outside of 24 bits leaves a register that is zero only if it is zero
there, too. -/
theorem eq_false_of_foldl_feed_eq_zero {difference : List Bool} {start : Nat}
    (hOutside : ∀ i, (hi : i < difference.length) → difference[i] = true → start ≤ i ∧ i < start + 24)
    (h : difference.foldl feed 0 = 0) : ∀ bit ∈ difference, bit = false := by
  have hBefore : ∀ bit ∈ difference.take start, bit = false := by
    intro bit hBit
    obtain ⟨i, hi, rfl⟩ := List.mem_take_iff_getElem.mp hBit
    refine Bool.eq_false_iff.mpr fun hSet => ?_
    have hWindow := hOutside i (by omega) hSet
    omega
  have hAfter : ∀ bit ∈ (difference.drop start).drop 24, bit = false := by
    intro bit hBit
    obtain ⟨i, hi, rfl⟩ := List.mem_iff_getElem.mp hBit
    rw [List.getElem_drop, List.getElem_drop]
    refine Bool.eq_false_iff.mpr fun hSet => ?_
    have hWindow := hOutside _ _ hSet
    omega
  have hSplit : difference.take start ++ ((difference.drop start).take 24 ++
      (difference.drop start).drop 24) = difference := by
    rw [List.take_append_drop, List.take_append_drop]
  have hWindow : load ((difference.drop start).take 24) = 0 := by
    rw [← hSplit, List.foldl_append, List.foldl_append, foldl_feed_false hBefore,
      foldl_feed_false hAfter, iterate_shift_eq_zero_iff, foldl_feed_eq (List.length_take_le ..),
      iterate_shift_eq_zero_iff, iterate_shift_eq_zero_iff.mpr rfl] at h
    simpa using h
  have hInside := load_eq_zero (List.length_take_le ..) hWindow
  rw [← hSplit]
  exact List.forall_mem_append.mpr ⟨hBefore, List.forall_mem_append.mpr ⟨hInside, hAfter⟩⟩

/-- Without a difference the bits are the same. -/
theorem eq_of_zipWith_xor {first second : List Bool} (hLength : first.length = second.length)
    (h : ∀ bit ∈ List.zipWith Bool.xor first second, bit = false) : first = second := by
  refine List.ext_getElem hLength fun i hFirst hSecond => ?_
  have hInside : i < (List.zipWith Bool.xor first second).length := by
    rw [List.length_zipWith]
    omega
  have hBit := h _ (List.getElem_mem hInside)
  rw [List.getElem_zipWith] at hBit
  simpa using hBit

/-- No burst of at most 24 bits goes unnoticed. -/
theorem checksum_ne_of_burst {data data' : List UInt8} (hLength : data.length = data'.length)
    (hNe : data ≠ data') {start : Nat}
    (hBurst : ∀ i, (bits data)[i]? ≠ (bits data')[i]? → start ≤ i ∧ i < start + 24) :
    checksum data ≠ checksum data' := by
  intro hSame
  change data.foldl update initial = data'.foldl update initial at hSame
  have hBits : (bits data).length = (bits data').length := by
    rw [length_bits, length_bits, hLength]
  have hZero : (List.zipWith Bool.xor (bits data) (bits data')).foldl feed 0 = 0 := by
    have hDifference := foldl_feed_xor hBits initial initial
    rwa [← foldl_update, ← foldl_update, hSame, BitVec.xor_self, BitVec.xor_self,
      eq_comm] at hDifference
  refine hNe (bits_injective (eq_of_zipWith_xor hBits ?_))
  refine eq_false_of_foldl_feed_eq_zero (fun i hi hSet => hBurst i fun hEq => ?_) hZero
  -- Where the bits are equal their difference is not set.
  rw [List.length_zipWith] at hi
  rw [List.getElem_zipWith] at hSet
  rw [List.getElem?_eq_getElem (by omega), List.getElem?_eq_getElem (by omega),
    Option.some.injEq] at hEq
  simp [hEq] at hSet

end Crc24

namespace Armor

/-- The block for some data, with this line in the place of its checksum line. -/
def writeWithChecksum (data : List UInt8) (type : BlockType) (line : List UInt8) : List UInt8 :=
  (beginLine type :: [] :: bodyLines (Base64.encode data) ++ [line, endLine type]).flatMap
    (· ++ lineFeed)

/-- What is written has the checksum line of its own data. -/
theorem write_eq (data : List UInt8) (type : BlockType) :
    write data type = writeWithChecksum data type (checksumLine data) := rfl

/-- What is written behind an opening, with another checksum line. -/
def contentWithChecksum (data : List UInt8) (type : BlockType) (line : SymbolLine) : Content :=
  { content .lineFeed data type with checksum := some line }

theorem text_contentWithChecksum (data : List UInt8) (type : BlockType) (line : SymbolLine) :
    (contentWithChecksum data type line).text =
      lineFeed ++ ((bodyLines (Base64.encode data)).flatMap (· ++ lineFeed) ++
        ((Base64.pad :: line.text) ++ (endLine type ++ lineFeed))) := by
  rw [← flatMap_text_bodyText .lineFeed]
  rfl

/-- The checksum line is looked at when everything else has been accepted. -/
theorem data_parts_contentWithChecksum (data : List UInt8) (type : BlockType) (line : SymbolLine)
    (headers : Headers) :
    ((contentWithChecksum data type line).parts type headers).data =
      (verifyChecksum line.symbols data).map fun _ => data := by
  have hBody : ((bodyText .lineFeed data).map SymbolLine.symbols).flatten = Base64.encode data := by
    rw [map_symbols_bodyText, bodyLines_encode, flatten_bodyPieces]
  have hParts : (contentWithChecksum data type line).parts type headers =
      ⟨type, headers, Base64.encode data, some line.symbols, type⟩ := by
    rw [← hBody]
    rfl
  have hTypes : ¬ type ≠ type := fun h => h rfl
  rw [hParts, Envelope.data, if_neg hTypes, Base64.decode_encode]
  change (verifyChecksum line.symbols data >>= fun _ => .ok data) = _
  cases verifyChecksum line.symbols data <;> rfl

/-- All that another checksum line changes is whether it is that of the data. -/
theorem outcome_read_writeWithChecksum (data : List UInt8) (type : BlockType) {symbols : List UInt8}
    (hSymbols : symbols ≠ []) (hBase64 : ∀ octet ∈ symbols, isBase64 octet) :
    (read (writeWithChecksum data type (Base64.pad :: symbols))).outcome =
      (verifyChecksum symbols data).map fun _ => ⟨type, ⟨[]⟩, data⟩ := by
  let line : SymbolLine := ⟨symbols, IsLineEnding.lineFeed.rest, hSymbols, hBase64⟩
  let opening : Opening := ⟨[], type, lineFeed, by decide, by decide, .lineFeed⟩
  let block : BlockText := ⟨opening, [], contentWithChecksum data type line⟩
  have hText : writeWithChecksum data type (Base64.pad :: symbols) = block.text ++ [] := by
    simp only [block, opening, BlockText.text, Opening.text, HeaderLine.allText,
      text_contentWithChecksum]
    simp [writeWithChecksum, line, SymbolLine.text, LineRest.text, IsLineEnding.rest]
  have hRead : block.IsRead [] := ⟨trivial, fun _ => rfl⟩
  have hData : block.parts.data = (verifyChecksum symbols data).map fun _ => data :=
    data_parts_contentWithChecksum data type line _
  rw [hText, BlockText.outcome_read hRead, BlockText.outcome, hData]
  cases verifyChecksum symbols data <;> rfl

/-- The checksum of other data is that of the data, or it is refused. -/
theorem verifyChecksum_of_ne {data other : List UInt8}
    (h : Crc24.checksum data ≠ Crc24.checksum other) :
    verifyChecksum (Base64.encode (checksumOctets other)) data = .error .armorChecksum := by
  have hOctets : checksumOctets other ≠ checksumOctets data := by
    intro hSame
    have hNat := bigEndian_inj (Crc24.checksum other).isLt (Crc24.checksum data).isLt hSame
    exact h (BitVec.eq_of_toNat_eq hNat.symm)
  rw [verifyChecksum, Base64.decode_encode]
  exact if_neg hOctets

/-- The checksum catches every short burst. Strings of the same length that are not equal, and differ
within 24 consecutive bits only, have different checksums, and a block for one of them with the
checksum line of the other is refused for its checksum. -/
theorem read_burst {data other : List UInt8} (hLength : data.length = other.length)
    (hNe : data ≠ other)
    (hBurst : ∃ start, ∀ i, (bits data)[i]? ≠ (bits other)[i]? → start ≤ i ∧ i < start + 24)
    (type : BlockType) :
    Crc24.checksum data ≠ Crc24.checksum other ∧
      (read (writeWithChecksum data type (checksumLine other))).outcome = .error .armorChecksum := by
  obtain ⟨start, hWindow⟩ := hBurst
  have hChecksum := Crc24.checksum_ne_of_burst hLength hNe hWindow
  refine ⟨hChecksum, ?_⟩
  have hSymbols : Base64.encode (checksumOctets other) ≠ [] :=
    (symbolLine .lineFeed _ (checksumOctets_ne_nil other)).symbols_ne_nil
  rw [checksumLine, outcome_read_writeWithChecksum data type hSymbols Base64.isBase64_of_mem_encode,
    verifyChecksum_of_ne hChecksum]
  rfl

/-- A burst of 24 bits that starts with the last bit of an octet. -/
theorem read_burst_across :
    Crc24.checksum [0xC2, 0, 0, 0, 0] ≠ Crc24.checksum [0xC2, 0x01, 0xFF, 0xFF, 0xFE] ∧
      (read (writeWithChecksum [0xC2, 0, 0, 0, 0] .signature
        (checksumLine [0xC2, 0x01, 0xFF, 0xFF, 0xFE]))).outcome = .error .armorChecksum := by
  have hInside : ∀ i < 40, (bits [0xC2, 0, 0, 0, 0])[i]? ≠ (bits [0xC2, 0x01, 0xFF, 0xFF, 0xFE])[i]? →
      15 ≤ i ∧ i < 15 + 24 := by decide
  have hWindow : ∀ i, (bits [0xC2, 0, 0, 0, 0])[i]? ≠ (bits [0xC2, 0x01, 0xFF, 0xFF, 0xFE])[i]? →
      15 ≤ i ∧ i < 15 + 24 := by
    intro i hDiffers
    refine hInside i (Nat.lt_of_not_le fun hOutside => hDiffers ?_) hDiffers
    rw [List.getElem?_eq_none hOutside, List.getElem?_eq_none hOutside]
  have hLength : [0xC2, 0, 0, 0, 0].length = [0xC2, 0x01, 0xFF, 0xFF, (0xFE : UInt8)].length := rfl
  exact read_burst hLength (by decide) ⟨15, hWindow⟩ .signature

end Armor

end PhraseKey
