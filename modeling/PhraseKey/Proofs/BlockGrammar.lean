import PhraseKey.Proofs.Base64Acceptance
import PhraseKey.Proofs.BlockText

/-!
Which texts are blocks without headers. Base64 is canonical, so the lines of the body and the checksum
line, if there is one, have to be the encodings of the data and of its checksum. All that is left open
is how the lines are laid out and what surrounds them.
-/

namespace PhraseKey.Armor

open Outcome (exists_of_bind_eq_ok)

/-- A text is decoded if it is an encoding, whatever becomes of the reason why another is not. -/
theorem mapError_decode_eq_ok_iff {ε : Type} {f : Base64.DecodeError → ε} {text data : List UInt8} :
    (Base64.decode text).mapError f = .ok data ↔ text = Base64.encode data := by
  rw [← Base64.decode_eq_ok_iff]
  cases Base64.decode text with
  | error error => simp [Except.mapError]
  | ok found => simp [Except.mapError]

/-- One text stands for the checksum of the data. -/
theorem verifyChecksum_eq_ok_iff {text data : List UInt8} :
    verifyChecksum text data = .ok () ↔ text = Base64.encode (checksumOctets data) := by
  constructor
  · intro h
    obtain ⟨octets, hDecode, hEqual⟩ := exists_of_bind_eq_ok h
    by_cases hOctets : octets = checksumOctets data
    · rw [← hOctets]
      exact mapError_decode_eq_ok_iff.mp hDecode
    · rw [if_neg hOctets] at hEqual
      cases hEqual
  · intro h
    rw [verifyChecksum, mapError_decode_eq_ok_iff.mpr h]
    exact if_pos rfl

/-- What a block says is accepted if its types agree and its texts are the encodings they should be. -/
theorem Envelope.data_eq_ok_iff {parts : Envelope} {data : List UInt8} :
    parts.data = .ok data ↔
      parts.type = parts.lastType ∧ parts.body = Base64.encode data ∧
        ∀ text ∈ parts.checksum, text = Base64.encode (checksumOctets data) := by
  rw [Envelope.data]
  by_cases hTypes : parts.type = parts.lastType
  · simp only [hTypes, ne_eq, not_true_eq_false, if_false, true_and]
    constructor
    · intro h
      obtain ⟨found, hDecode, h⟩ := exists_of_bind_eq_ok h
      cases hChecksum : parts.checksum with
      | none =>
          rw [hChecksum] at h
          cases h
          exact ⟨mapError_decode_eq_ok_iff.mp hDecode, by simp⟩
      | some text =>
          rw [hChecksum] at h
          obtain ⟨_, hVerify, h⟩ := exists_of_bind_eq_ok h
          cases h
          have hText := verifyChecksum_eq_ok_iff.mp hVerify
          exact ⟨mapError_decode_eq_ok_iff.mp hDecode, by simpa using hText⟩
    · rintro ⟨hBody, hChecksum⟩
      rw [mapError_decode_eq_ok_iff.mpr hBody]
      cases hText : parts.checksum with
      | none => rfl
      | some text =>
          have hVerify := verifyChecksum_eq_ok_iff.mpr (hChecksum text hText)
          change (verifyChecksum text data >>= fun _ => .ok data) = .ok data
          rw [hVerify]
          rfl
  · simp only [hTypes, false_and, iff_false, ne_eq, not_false_eq_true, if_true]
    intro h
    obtain ⟨_, hThrow, -⟩ := exists_of_bind_eq_ok h
    cases hThrow

/-- What is not accepted is malformed. -/
theorem kind_of_verifyChecksum_eq_error {text data : List UInt8} {error : Error}
    (h : verifyChecksum text data = .error error) : error.kind = .format := by
  rw [verifyChecksum] at h
  cases hDecode : Base64.decode text with
  | error cause =>
      rw [hDecode] at h
      cases h
      rfl
  | ok octets =>
      rw [hDecode] at h
      change (if octets = checksumOctets data then _ else _) = _ at h
      split at h
      · cases h
      · cases h
        rfl

theorem Envelope.kind_of_data_eq_error {parts : Envelope} {error : Error}
    (h : parts.data = .error error) : error.kind = .format := by
  rw [data] at h
  split at h
  · cases h
    rfl
  · cases hDecode : Base64.decode parts.body with
    | error cause =>
        rw [hDecode] at h
        cases h
        rfl
    | ok found =>
        rw [hDecode] at h
        cases hChecksum : parts.checksum with
        | none =>
            rw [hChecksum] at h
            cases h
        | some text =>
            rw [hChecksum] at h
            change (verifyChecksum text found >>= fun _ => .ok found) = _ at h
            cases hVerify : verifyChecksum text found with
            | error cause =>
                rw [hVerify] at h
                cases h
                exact kind_of_verifyChecksum_eq_error hVerify
            | ok _ =>
                rw [hVerify] at h
                cases h

theorem kind_of_outcome_read_eq_error {text : List UInt8} {error : Error}
    (h : (read text).outcome = .error error) : error.kind = .format := by
  cases hEnvelope : envelope text with
  | none =>
      rw [outcome_read_of_none hEnvelope] at h
      cases h
      rfl
  | some result =>
      rw [outcome_read_of_some hEnvelope] at h
      cases hData : result.1.data with
      | error cause =>
          rw [hData] at h
          cases h
          exact Envelope.kind_of_data_eq_error hData
      | ok found =>
          rw [hData] at h
          cases h

/-- The lines of the body put together. -/
def Content.symbols (content : Content) : List UInt8 :=
  (content.body.map SymbolLine.symbols).flatten

/-- A text with a block without headers in it: its first rule opens the block, and there is something
behind the last line of the block only if that line ends. -/
structure PlainText where
  opening : Opening
  content : Content
  trailing : List UInt8
  atEnd : content.lastEnding = [] → trailing = []

namespace PlainText

def text (plain : PlainText) : List UInt8 :=
  plain.opening.text ++ (plain.content.text ++ plain.trailing)

/-- The block is that of some data: its lines say so, and so does its checksum line unless there is
none. -/
structure Holds (plain : PlainText) (type : BlockType) (data : List UInt8) : Prop where
  type_eq : plain.opening.type = type
  lastType_eq : plain.content.lastType = type
  symbols_eq : plain.content.symbols = Base64.encode data
  checksum_eq : ∀ line ∈ plain.content.checksum, line.symbols = Base64.encode (checksumOctets data)

/-- The same as a block with a list of headers that is empty. -/
def block (plain : PlainText) : BlockText :=
  ⟨plain.opening, [], plain.content⟩

theorem block_text_append (plain : PlainText) : plain.block.text ++ plain.trailing = plain.text := by
  simp [block, BlockText.text, HeaderLine.allText, text]

theorem outcome_read_text (plain : PlainText) : (read plain.text).outcome = plain.block.outcome := by
  have hRead : plain.block.IsRead plain.trailing := ⟨trivial, plain.atEnd⟩
  rw [← plain.block_text_append, BlockText.outcome_read hRead]

theorem outcome_block_eq_ok_iff {plain : PlainText} {type : BlockType} {data : List UInt8} :
    plain.block.outcome = .ok ⟨type, ⟨[]⟩, data⟩ ↔ plain.Holds type data := by
  constructor
  · intro h
    obtain ⟨hData, hType, -⟩ := BlockText.of_outcome_eq_ok h
    obtain ⟨hTypes, hBody, hChecksum⟩ := Envelope.data_eq_ok_iff.mp hData
    exact ⟨hType, hTypes.symm.trans hType, hBody, fun line hLine =>
      hChecksum line.symbols (Option.mem_map_of_mem _ hLine)⟩
  · intro h
    have hData : plain.block.parts.data = .ok data := by
      apply Envelope.data_eq_ok_iff.mpr
      refine ⟨h.type_eq.trans h.lastType_eq.symm, h.symbols_eq, fun text hText => ?_⟩
      obtain ⟨line, hLine, rfl⟩ := Option.map_eq_some_iff.mp hText
      exact h.checksum_eq line hLine
    rw [BlockText.outcome, hData, ← h.type_eq]
    rfl

/-- Whatever is accepted without headers is such a text. -/
theorem exists_of_outcome_read {text : List UInt8} {type : BlockType} {data : List UInt8}
    (h : (read text).outcome = .ok ⟨type, ⟨[]⟩, data⟩) :
    ∃ plain : PlainText, text = plain.text ∧ plain.Holds type data := by
  obtain ⟨result, hEnvelope⟩ := exists_of_outcome_eq_ok h
  obtain ⟨opening, rest, rfl⟩ := exists_opening hEnvelope
  obtain ⟨block, trailing, -, hText, hRead, hOutcome⟩ := exists_of_read_opening h
  obtain ⟨-, -, hHeaders⟩ := BlockText.of_outcome_eq_ok hOutcome
  have hNone : block.headers = [] := List.map_eq_nil_iff.mp (congrArg Headers.lines hHeaders)
  let plain : PlainText := ⟨block.opening, block.content, trailing, hRead.atEnd⟩
  have hBlock : plain.block = block := by
    obtain ⟨blockOpening, headers, content⟩ := block
    subst hNone
    rfl
  refine ⟨plain, ?_, ?_⟩
  · rw [hText, ← hBlock]
    exact plain.block_text_append
  · rw [← hBlock] at hOutcome
    exact outcome_block_eq_ok_iff.mp hOutcome

end PlainText

/-- The grammar of blocks without headers. A text is read as one if and only if its first rule opens a
block, behind whose first line there is a blank line, any number of lines of base64 that together are
the encoding of the data, at most one checksum line, with the encoding of the checksum of the data, and
a last line of the same type, which ends or is the end of the text. So texts that are read hold the same
data if and only if their bodies are the same but for the layout. -/
theorem read_plain_iff :
    (∀ (text : List UInt8) (type : BlockType) (data : List UInt8),
      (read text).outcome = .ok ⟨type, ⟨[]⟩, data⟩ ↔
        ∃ plain : PlainText, text = plain.text ∧ plain.Holds type data) ∧
    (∀ (plain plain' : PlainText) (type type' : BlockType) (data data' : List UInt8),
      (read plain.text).outcome = .ok ⟨type, ⟨[]⟩, data⟩ →
      (read plain'.text).outcome = .ok ⟨type', ⟨[]⟩, data'⟩ →
        (plain.content.symbols = plain'.content.symbols ↔ data = data')) := by
  constructor
  · intro text type data
    constructor
    · exact PlainText.exists_of_outcome_read
    · rintro ⟨plain, rfl, hHolds⟩
      rw [plain.outcome_read_text]
      exact PlainText.outcome_block_eq_ok_iff.mpr hHolds
  · intro plain plain' type type' data data' hRead hRead'
    rw [PlainText.outcome_read_text] at hRead hRead'
    have hSymbols := (PlainText.outcome_block_eq_ok_iff.mp hRead).symbols_eq
    have hSymbols' := (PlainText.outcome_block_eq_ok_iff.mp hRead').symbols_eq
    rw [hSymbols, hSymbols']
    constructor
    · exact Base64.encode_injective
    · exact congrArg Base64.encode

/-- A message as another program might lay it out: without a checksum, with blanks behind both lines of
the body, and with nothing behind the last line. -/
def looseMessage : PlainText where
  opening := ⟨Text.toUtf8 "see ----:\n", .message, carriageReturnLineFeed, by decide, by decide,
    .carriageReturnLineFeed⟩
  content :=
    { blank := ⟨[32, 9], lineFeed, by decide +kernel, .lineFeed⟩
      body :=
        [⟨Text.toUtf8 "zQ", ⟨[32], lineFeed, by decide +kernel, .lineFeed⟩, by decide,
            by decide +kernel⟩,
          ⟨Text.toUtf8 "NhYmM=", ⟨[9, 32], carriageReturnLineFeed, by decide +kernel,
            .carriageReturnLineFeed⟩, by decide, by decide +kernel⟩]
      checksum := none
      lastType := .message
      lastEnding := []
      body_head := by decide +kernel
      lastEnding_cases := .inl rfl }
  trailing := []
  atEnd := fun _ => rfl

/-- The same message in one line, with its checksum. -/
def tightMessage : PlainText where
  opening := .bare .message
  content :=
    { blank := IsLineEnding.lineFeed.rest
      body :=
        [⟨Text.toUtf8 "zQNhYmM=", IsLineEnding.lineFeed.rest, by decide, by decide +kernel⟩]
      checksum :=
        some ⟨Text.toUtf8 "dVX8", IsLineEnding.lineFeed.rest, by decide, by decide +kernel⟩
      lastType := .message
      lastEnding := lineFeed
      body_head := by decide +kernel
      lastEnding_cases := .inr .lineFeed }
  trailing := Text.toUtf8 "-----"
  atEnd := fun hNone => absurd hNone (by decide)

/-- Both are read, and have the same body. -/
theorem read_plain_iff_layouts :
    (read looseMessage.text).outcome = .ok ⟨.message, ⟨[]⟩, [0xCD, 3, 97, 98, 99]⟩ ∧
    (read tightMessage.text).outcome = .ok ⟨.message, ⟨[]⟩, [0xCD, 3, 97, 98, 99]⟩ ∧
    looseMessage.content.symbols = tightMessage.content.symbols := by
  have hLoose : (read looseMessage.text).outcome = .ok ⟨.message, ⟨[]⟩, [0xCD, 3, 97, 98, 99]⟩ := by
    apply (read_plain_iff.1 _ _ _).mpr
    exact ⟨looseMessage, rfl, rfl, rfl, by decide +kernel, by decide +kernel⟩
  have hTight : (read tightMessage.text).outcome = .ok ⟨.message, ⟨[]⟩, [0xCD, 3, 97, 98, 99]⟩ := by
    apply (read_plain_iff.1 _ _ _).mpr
    exact ⟨tightMessage, rfl, rfl, rfl, by decide +kernel, by decide +kernel⟩
  exact ⟨hLoose, hTight, (read_plain_iff.2 _ _ _ _ _ _ hLoose hTight).mpr rfl⟩

end PhraseKey.Armor
