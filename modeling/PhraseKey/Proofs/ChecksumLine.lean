import PhraseKey.Proofs.BlockGrammar
import PhraseKey.Proofs.BurstErrors

/-!
A damaged checksum line. Depending on what one character of it becomes, the line is taken for a line of
the body, for a shorter checksum or for nothing at all. A line of the body of five symbols leaves no
encoding behind, and any checksum but the one encoding of the right octets is refused.
-/

namespace PhraseKey

namespace Base64

/-- Whole groups have no padding. -/
theorem isSome_value?_of_mem_encode {data : List UInt8} (hGroups : data.length % 3 = 0) :
    ∀ octet ∈ encode data, (value? octet).isSome := by
  induction data using encode.induct with
  | case1 => exact List.forall_mem_nil _
  | case2 a => cases hGroups
  | case3 a b => cases hGroups
  | case4 a b c rest ih =>
      have hA := a.toNat_lt
      have hB := b.toNat_lt
      have hC := c.toNat_lt
      simp only [List.length_cons] at hGroups
      have hRest := ih (by omega)
      simp only [encode, List.forall_mem_cons]
      rw [value?_symbol (by omega), value?_symbol (by omega), value?_symbol (by omega),
        value?_symbol (by omega)]
      exact ⟨rfl, rfl, rfl, rfl, hRest⟩

/-- Four symbols of the alphabet always stand for something. -/
theorem exists_decode_eq_ok {text : List UInt8} (hLength : text.length = 4)
    (hSymbols : ∀ octet ∈ text, (value? octet).isSome) : ∃ data, decode text = .ok data := by
  obtain ⟨a, b, c, d, rfl⟩ : ∃ a b c d, text = [a, b, c, d] := by
    match text with
    | [a, b, c, d] => exact ⟨a, b, c, d, rfl⟩
  simp only [List.forall_mem_cons, Option.isSome_iff_exists] at hSymbols
  obtain ⟨⟨first, hFirst⟩, ⟨second, hSecond⟩, ⟨third, hThird⟩, ⟨fourth, hFourth⟩, -⟩ := hSymbols
  obtain ⟨hA, rfl⟩ := symbol_of_value? hFirst
  obtain ⟨hB, rfl⟩ := symbol_of_value? hSecond
  obtain ⟨hC, rfl⟩ := symbol_of_value? hThird
  obtain ⟨hD, rfl⟩ := symbol_of_value? hFourth
  have hGroup := encode_groupOctets hA hB hC hD []
  rw [List.append_nil] at hGroup
  exact ⟨_, decode_eq_ok_iff.mpr hGroup.symm⟩

end Base64

namespace Armor

open Scanner

theorem exists_endLine_eq (type : BlockType) : ∃ more, endLine type = 45 :: 45 :: more := by
  cases type <;> exact ⟨_, rfl⟩

/-- Behind a blank line there are no headers. -/
theorem envelope_blank (opening : Opening) (blank : LineRest) (rest : List UInt8) :
    envelope (opening.text ++ (blank.text ++ rest)) =
      contentParts opening.type ⟨[]⟩ (blank.text ++ rest) := by
  have hHeaders : many header (blank.text ++ rest) = some ([], blank.text ++ rest) :=
    repeatUpTo_of_none (blank.header_text rest) _
  rw [envelope_opening, bind_of_some hHeaders]

/-- An accepted text has the encoding of its data in its lines of base64. Behind them are a checksum
line, if there is one, and a last line. -/
theorem exists_of_read_lines {opening : Opening} {blank : LineRest} {lines : List SymbolLine}
    {tail : List UInt8} {found : Block}
    (hHead : ∀ line ∈ lines, line.symbols.head? ≠ some Base64.pad) (hTail : bodyLine tail = none)
    (h : (read (opening.text ++ (blank.text ++
      (lines.flatMap SymbolLine.text ++ tail)))).outcome = .ok found) :
    (lines.map SymbolLine.symbols).flatten = Base64.encode found.data ∧
      ∃ checksum behind last, optional checksumText tail = some (checksum, behind) ∧
        lastLine behind = some last ∧
        ∀ text ∈ checksum, text = Base64.encode (checksumOctets found.data) := by
  obtain ⟨⟨parts, left⟩, hEnvelope⟩ := exists_of_outcome_eq_ok h
  rw [outcome_read_of_some hEnvelope] at h
  rw [envelope_blank, contentParts, bind_of_some (blank.blankRest_text _),
    bind_of_some (SymbolLine.many_bodyLine_flatMap hHead hTail)] at hEnvelope
  obtain ⟨checksum, behind, hChecksum, hNext⟩ := exists_of_bind_eq_some hEnvelope
  obtain ⟨lastType, rest, hLast, hReturn⟩ := exists_of_bind_eq_some hNext
  cases hReturn
  cases hData : Envelope.data
      ⟨opening.type, ⟨[]⟩, (lines.map SymbolLine.symbols).flatten, checksum, lastType⟩ with
  | error error =>
      rw [hData] at h
      cases h
  | ok data =>
      rw [hData] at h
      cases h
      obtain ⟨-, hBody, hText⟩ := Envelope.data_eq_ok_iff.mp hData
      exact ⟨hBody, checksum, behind, _, hChecksum, hLast, hText⟩

/-- What is written behind the checksum line. -/
def behindChecksum (type : BlockType) : List UInt8 :=
  lineFeed ++ (endLine type ++ lineFeed)

theorem writeWithChecksum_eq (data : List UInt8) (type : BlockType) (line : List UInt8) :
    writeWithChecksum data type line =
      (Opening.bare type).text ++ (IsLineEnding.lineFeed.rest.text ++
        ((bodyText .lineFeed data).flatMap SymbolLine.text ++ (line ++ behindChecksum type))) := by
  rw [flatMap_text_bodyText]
  simp [writeWithChecksum, Opening.bare, Opening.text, LineRest.text, IsLineEnding.rest,
    behindChecksum]

variable {data : List UInt8} {type : BlockType} {found : Block}

theorem head_of_mem_bodyText {line : SymbolLine} (h : line ∈ bodyText .lineFeed data) :
    line.symbols.head? ≠ some Base64.pad :=
  (content .lineFeed data .message).body_head line h

theorem flatten_bodyText (data : List UInt8) :
    ((bodyText .lineFeed data).map SymbolLine.symbols).flatten = Base64.encode data := by
  rw [map_symbols_bodyText, bodyLines_encode, flatten_bodyPieces]

/-- One more line of the body, not of whole groups, leaves nothing that could be decoded. -/
theorem outcome_read_bodyLine_ne {symbols : List UInt8} (hLength : symbols.length % 4 ≠ 0)
    (hHead : symbols.head? ≠ some Base64.pad) (hBase64 : ∀ octet ∈ symbols, isBase64 octet) :
    (read (writeWithChecksum data type symbols)).outcome ≠ .ok found := by
  intro h
  have hNonempty : symbols ≠ [] := by
    rintro rfl
    exact hLength rfl
  let line : SymbolLine := ⟨symbols, IsLineEnding.lineFeed.rest, hNonempty, hBase64⟩
  have hText : (bodyText .lineFeed data).flatMap SymbolLine.text ++ (symbols ++ behindChecksum type) =
      (bodyText .lineFeed data ++ [line]).flatMap SymbolLine.text ++ (endLine type ++ lineFeed) := by
    simp [line, SymbolLine.text, LineRest.text, IsLineEnding.rest, behindChecksum]
  have hLines : ∀ other ∈ bodyText .lineFeed data ++ [line], other.symbols.head? ≠ some Base64.pad := by
    intro other hOther
    rcases List.mem_append.mp hOther with hWritten | hMore
    · exact head_of_mem_bodyText hWritten
    · rw [List.mem_singleton.mp hMore]
      exact hHead
  rw [writeWithChecksum_eq, hText] at h
  obtain ⟨hBody, -⟩ := exists_of_read_lines hLines rfl h
  rw [List.map_append, List.flatten_append, flatten_bodyText] at hBody
  have hCount := congrArg List.length hBody
  simp only [List.length_append, Base64.length_encode, List.map_cons, List.map_nil,
    List.flatten_cons, List.flatten_nil, List.append_nil, line] at hCount
  omega

/-- What is neither a line of base64 nor a checksum line would have to be the last line. -/
theorem outcome_read_other_ne {first second : UInt8} {rest : List UInt8} (hPad : first ≠ Base64.pad)
    (hBase64 : ¬ isBase64 first) (hHyphen : second ≠ 45) :
    (read (writeWithChecksum data type (first :: second :: rest))).outcome ≠ .ok found := by
  intro h
  have hSpan : span isBase64 (first :: second :: rest ++ behindChecksum type) =
      some ([], first :: second :: rest ++ behindChecksum type) :=
    span_append (List.forall_mem_nil _) (by simpa using hBase64)
  have hTail : bodyLine (first :: second :: rest ++ behindChecksum type) = none := by
    rw [bodyLine, bind_of_some hSpan]
    exact bind_of_none (guard_of_neg (fun hNonempty => hNonempty.1 rfl) _) _
  rw [writeWithChecksum_eq] at h
  obtain ⟨-, checksum, behind, last, hChecksum, hLast, -⟩ :=
    exists_of_read_lines (fun _ => head_of_mem_bodyText) hTail h
  obtain ⟨symbols, -, hText⟩ | ⟨-, rfl⟩ := of_optional_eq_some hChecksum
  · obtain ⟨line, hLine, -⟩ := exists_of_checksumText_eq_some hText
    exact hPad (List.cons.inj hLine).1
  · obtain ⟨ending, -, -, hEnd⟩ := exists_of_lastLine_eq_some hLast
    obtain ⟨more, hMore⟩ := exists_endLine_eq last.1
    rw [hMore] at hEnd
    exact hHyphen (List.cons.inj (List.cons.inj hEnd).2).1

/-- A checksum line of the same length has to be the one that was written. -/
theorem outcome_read_checksumLine_ne {symbols : List UInt8}
    (hLength : symbols.length = (Base64.encode (checksumOctets data)).length)
    (hNe : symbols ≠ Base64.encode (checksumOctets data)) :
    (read (writeWithChecksum data type (Base64.pad :: symbols))).outcome ≠ .ok found := by
  intro h
  rw [writeWithChecksum_eq] at h
  obtain ⟨hBody, checksum, behind, last, hChecksum, hLast, hEqual⟩ :=
    exists_of_read_lines (fun _ => head_of_mem_bodyText) (bodyLine_of_pad _) h
  rw [flatten_bodyText] at hBody
  have hData := Base64.encode_injective hBody
  obtain ⟨found, rfl, hText⟩ | ⟨-, rfl⟩ := of_optional_eq_some hChecksum
  · obtain ⟨line, hLine, rfl⟩ := exists_of_checksumText_eq_some hText
    have hSymbols := hEqual _ rfl
    rw [← hData] at hSymbols
    have hBehind : symbols ++ behindChecksum type = line.symbols ++ (line.rest.text ++ behind) := by
      rw [← List.append_assoc]
      exact (List.cons.inj hLine).2
    have hFront := List.append_inj_left hBehind (by rw [hLength, hSymbols])
    exact hNe (hFront.trans hSymbols)
  · obtain ⟨ending, -, -, hEnd⟩ := exists_of_lastLine_eq_some hLast
    obtain ⟨more, hMore⟩ := exists_endLine_eq last.1
    rw [hMore] at hEnd
    exact absurd (List.cons.inj hEnd).1 (by decide)

/-- Four symbols that are not those of the checksum are those of another one. -/
theorem verifyChecksum_of_symbols {symbols : List UInt8} (hLength : symbols.length = 4)
    (hSymbols : ∀ octet ∈ symbols, (Base64.value? octet).isSome)
    (hNe : symbols ≠ Base64.encode (checksumOctets data)) :
    verifyChecksum symbols data = .error .armorChecksum := by
  obtain ⟨octets, hDecode⟩ := Base64.exists_decode_eq_ok hLength hSymbols
  have hOctets : octets ≠ checksumOctets data := by
    rintro rfl
    exact hNe (Base64.decode_eq_ok_iff.mp hDecode)
  rw [verifyChecksum, hDecode]
  exact if_neg hOctets

theorem length_encode_checksumOctets (data : List UInt8) :
    (Base64.encode (checksumOctets data)).length = 4 := by
  have hOctets : (checksumOctets data).length = 3 := length_bigEndian ..
  rw [Base64.length_encode, hOctets]

variable {front back : List UInt8} {old octet : UInt8}

/-- Whatever a character of the checksum line becomes, the block is not accepted. -/
theorem outcome_read_changed_ne (hLine : checksumLine data = front ++ old :: back)
    (hOctet : octet ≠ old) :
    (read (writeWithChecksum data type (front ++ octet :: back))).outcome ≠ .ok found := by
  cases front with
  | nil =>
      obtain ⟨rfl, rfl⟩ := List.cons.inj hLine
      by_cases hBase64 : isBase64 octet
      · apply outcome_read_bodyLine_ne
        · simp [length_encode_checksumOctets]
        · simpa using hOctet
        · simp only [List.nil_append, List.forall_mem_cons]
          exact ⟨hBase64, Base64.isBase64_of_mem_encode⟩
      · obtain ⟨value, rest, hValue, hEncode⟩ :=
          Base64.exists_encode_cons (checksumOctets_ne_nil data)
        rw [hEncode]
        apply outcome_read_other_ne hOctet hBase64
        intro hHyphen
        have hSymbol := Base64.isBase64_symbol hValue
        rw [hHyphen] at hSymbol
        cases hSymbol
  | cons first front =>
      obtain ⟨rfl, hSymbols⟩ := List.cons.inj hLine
      apply outcome_read_checksumLine_ne
      · rw [hSymbols]
        simp
      · rw [hSymbols]
        simpa using hOctet

/-- A symbol that becomes another one is noticed when the checksums are compared. -/
theorem outcome_read_changed_symbol (type : BlockType)
    (hSymbols : Base64.encode (checksumOctets data) = front ++ old :: back) (hOctet : octet ≠ old)
    (hOther : (Base64.value? octet).isSome) :
    (read (writeWithChecksum data type (Base64.pad :: (front ++ octet :: back)))).outcome =
      .error .armorChecksum := by
  have hLength := length_encode_checksumOctets data
  have hOctets : (checksumOctets data).length = 3 := length_bigEndian ..
  have hAlphabet : ∀ symbol ∈ Base64.encode (checksumOctets data), (Base64.value? symbol).isSome :=
    Base64.isSome_value?_of_mem_encode (by rw [hOctets])
  rw [hSymbols] at hLength hAlphabet
  have hChanged : ∀ symbol ∈ front ++ octet :: back, (Base64.value? symbol).isSome := by
    intro symbol hMem
    rcases List.mem_append.mp hMem with hMem | hMem
    · exact hAlphabet symbol (List.mem_append_left _ hMem)
    · rcases List.mem_cons.mp hMem with rfl | hMem
      · exact hOther
      · exact hAlphabet symbol (List.mem_append_right _ (List.mem_cons_of_mem _ hMem))
  have hVerify : verifyChecksum (front ++ octet :: back) data = .error .armorChecksum := by
    apply verifyChecksum_of_symbols
    · simpa using hLength
    · exact hChanged
    · rw [hSymbols]
      simpa using hOctet
  rw [outcome_read_writeWithChecksum data type (by simp)
    fun symbol hMem => by simp [isBase64, hChanged symbol hMem], hVerify]
  rfl

/-- One character of the checksum line makes all the difference. Any other octet in its place makes the
block malformed, and if both are symbols of the alphabet it is the checksum that is found wrong. -/
theorem read_changed_checksum (data : List UInt8) (type : BlockType) :
    write data type = writeWithChecksum data type (checksumLine data) ∧
    (checksumLine data).length = 5 ∧
    ∀ (front back : List UInt8) (old octet : UInt8), checksumLine data = front ++ old :: back →
      octet ≠ old →
        ∃ error, (read (writeWithChecksum data type (front ++ octet :: back))).outcome = .error error ∧
          error.kind = .format ∧
          (front ≠ [] → (Base64.value? octet).isSome → error = .armorChecksum) := by
  have hLength : (checksumLine data).length = 5 := by
    rw [checksumLine, List.length_cons, length_encode_checksumOctets]
  refine ⟨write_eq data type, hLength, ?_⟩
  intro front back old octet hLine hOctet
  cases hRead : (read (writeWithChecksum data type (front ++ octet :: back))).outcome with
  | ok found => exact absurd hRead (outcome_read_changed_ne hLine hOctet)
  | error error =>
      refine ⟨error, rfl, kind_of_outcome_read_eq_error hRead, fun hFront hOther => ?_⟩
      cases front with
      | nil => exact absurd rfl hFront
      | cons first front =>
          obtain ⟨rfl, hSymbols⟩ := List.cons.inj hLine
          rw [List.cons_append, outcome_read_changed_symbol type hSymbols hOctet hOther] at hRead
          cases hRead
          rfl

/-- A symbol of the checksum of no data at all that is changed, and its equals sign that becomes a
symbol. -/
theorem read_changed_checksum_empty :
    (read (writeWithChecksum [] .message (Text.toUtf8 "=twTA"))).outcome = .error .armorChecksum ∧
    ∃ error, (read (writeWithChecksum [] .message (Text.toUtf8 "AtwTO"))).outcome = .error error ∧
      error.kind = .format := by
  have hChanged := (read_changed_checksum [] .message).2.2
  have hLine : checksumLine [] = Text.toUtf8 "=twT" ++ 79 :: [] := by decide +kernel
  have hLine' : checksumLine [] = [] ++ 61 :: Text.toUtf8 "twTO" := by decide +kernel
  obtain ⟨error, hRead, -, hSymbol⟩ := hChanged (Text.toUtf8 "=twT") [] 79 65 hLine (by decide)
  obtain ⟨error', hRead', hKind, -⟩ := hChanged [] (Text.toUtf8 "twTO") 61 65 hLine' (by decide)
  have hText : Text.toUtf8 "=twTA" = Text.toUtf8 "=twT" ++ 65 :: [] := by decide +kernel
  have hText' : Text.toUtf8 "AtwTO" = [] ++ 65 :: Text.toUtf8 "twTO" := by decide +kernel
  obtain rfl := hSymbol (by decide +kernel) rfl
  rw [hText, hText']
  exact ⟨hRead, error', hRead', hKind⟩

end Armor

end PhraseKey
