import PhraseKey.Proofs.HeaderLines

/-!
The text of a block. The reader takes off exactly what is an opening with a first line, header lines
that are read as they stand, a blank line, lines of a body, a checksum line if there is one, and a last
line. What the data are depends on nothing but the body, the checksum line and the two types.
-/

namespace PhraseKey.Armor

open Scanner

variable {ending : List UInt8}

theorem firstLine_append (hEnding : IsLineEnding ending) (type : BlockType) (rest : List UInt8) :
    firstLine (beginLine type ++ (ending ++ rest)) = some (type, rest) := by
  cases hEnding <;> cases type <;> rfl

theorem lastLine_append (hEnding : IsLineEnding ending) (type : BlockType) (rest : List UInt8) :
    lastLine (endLine type ++ (ending ++ rest)) = some (type, rest) := by
  cases hEnding <;> cases type <;> rfl

/-- A checksum line is no line of the body. -/
theorem bodyLine_of_pad (rest : List UInt8) : bodyLine (Base64.pad :: rest) = none := by
  rw [bodyLine, bind_of_some rfl]
  exact bind_of_none (guard_of_neg (fun h => h.2 rfl) _) _

/-- Text that neither contains a rule nor ends in the middle of one has none start in it, whatever
follows it. -/
theorem not_prefix_append {leading : List UInt8} (hRule : ¬ rule <:+: leading)
    (hHyphen : leading.getLast? ≠ some 45) (rest : List UInt8) :
    ∀ back, back <:+ leading → back ≠ [] → ¬ rule <+: back ++ rest := by
  intro back hBack hNonempty hPrefix
  obtain hInside | hAcross :=
    List.prefix_or_prefix_of_prefix hPrefix (List.prefix_append back rest)
  · exact hRule (hInside.isInfix.trans hBack.isInfix)
  · have hHyphens : rule.all (· == 45) := rfl
    obtain ⟨front, rfl⟩ := hBack
    obtain ⟨last, hLast⟩ := Option.isSome_iff_exists.mp (List.getLast?_isSome.mpr hNonempty)
    rw [List.getLast?_append, hLast, Option.some_or] at hHyphen
    have hMem := hAcross.subset (List.mem_of_getLast? hLast)
    exact hHyphen (congrArg some (eq_of_beq (List.all_eq_true.mp hHyphens last hMem)))

theorem eq_append_of_titled {type found : BlockType} {text left : List UInt8}
    (h : (do literal (Text.toUtf8 type.title); return type : Scanner BlockType) text =
      some (found, left)) : text = Text.toUtf8 found.title ++ left := by
  obtain ⟨_, _, hTitle, hReturn⟩ := exists_of_bind_eq_some h
  cases hReturn
  exact eq_append_of_literal hTitle

theorem eq_append_of_blockType {type : BlockType} {text left : List UInt8}
    (h : blockType text = some (type, left)) : text = Text.toUtf8 type.title ++ left := by
  obtain h | h := of_orElse_eq_some h
  · exact eq_append_of_titled h
  · obtain h | h := of_orElse_eq_some h
    · exact eq_append_of_titled h
    · obtain h | h := of_orElse_eq_some h
      · exact eq_append_of_titled h
      · exact eq_append_of_titled h

/-- Both lines around a block have a word and a type between rules, and differ in how they end. -/
theorem exists_of_titleLine_eq_some {word : List UInt8} {lineEnd : Scanner Unit} {type : BlockType}
    {text left : List UInt8}
    (h : (do
      literal rule
      literal word
      let type ← blockType
      literal rule
      lineEnd
      return type : Scanner BlockType) text = some (type, left)) :
    ∃ behind, text = rule ++ word ++ Text.toUtf8 type.title ++ rule ++ behind ∧
      lineEnd behind = some ((), left) := by
  obtain ⟨_, _, hRule, hNext⟩ := exists_of_bind_eq_some h
  obtain ⟨_, _, hWord, hNext⟩ := exists_of_bind_eq_some hNext
  obtain ⟨_, _, hType, hNext⟩ := exists_of_bind_eq_some hNext
  obtain ⟨_, behind, hRule', hNext⟩ := exists_of_bind_eq_some hNext
  obtain ⟨_, _, hEnd, hReturn⟩ := exists_of_bind_eq_some hNext
  cases hReturn
  refine ⟨behind, ?_, hEnd⟩
  rw [eq_append_of_literal hRule, eq_append_of_literal hWord, eq_append_of_blockType hType,
    eq_append_of_literal hRule']
  simp only [List.append_assoc]

theorem exists_of_firstLine_eq_some {type : BlockType} {text left : List UInt8}
    (h : firstLine text = some (type, left)) :
    ∃ ending, IsLineEnding ending ∧ text = beginLine type ++ (ending ++ left) := by
  obtain ⟨behind, rfl, hEnd⟩ := exists_of_titleLine_eq_some h
  obtain ⟨ending, hEnding, rfl⟩ := exists_of_lineEnding_eq_some hEnd
  exact ⟨ending, hEnding, rfl⟩

/-- The last line may also end with the text. -/
theorem exists_of_lastLine_eq_some {type : BlockType} {text left : List UInt8}
    (h : lastLine text = some (type, left)) :
    ∃ ending, (ending = [] ∨ IsLineEnding ending) ∧ (ending = [] → left = []) ∧
      text = endLine type ++ (ending ++ left) := by
  obtain ⟨behind, rfl, hEnd⟩ := exists_of_titleLine_eq_some h
  obtain hLineEnding | hAtEnd := of_orElse_eq_some hEnd
  · obtain ⟨ending, hEnding, rfl⟩ := exists_of_lineEnding_eq_some hLineEnding
    exact ⟨ending, .inr hEnding, fun hNone => absurd hNone hEnding.ne_nil, rfl⟩
  · rw [atEnd] at hAtEnd
    split at hAtEnd
    · next hBehind =>
        cases hAtEnd
        subst hBehind
        exact ⟨[], .inl rfl, fun _ => rfl, rfl⟩
    · cases hAtEnd

theorem lastLine_of_end (type : BlockType) : lastLine (endLine type) = some (type, []) := by
  cases type <;> rfl

/-- Lines of the body are taken off down to something else. -/
theorem SymbolLine.many_bodyLine_flatMap {lines : List SymbolLine} {tail : List UInt8}
    (hHead : ∀ line ∈ lines, line.symbols.head? ≠ some Base64.pad) (hTail : bodyLine tail = none) :
    many bodyLine (lines.flatMap SymbolLine.text ++ tail) =
      some (lines.map SymbolLine.symbols, tail) := by
  refine many_of_takes (fun text value left hLine => ?_) ?_ hTail
  · obtain ⟨line, rfl, -⟩ := exists_of_bodyLine_eq_some hLine
    exact length_lt_of_ne_nil line.text_ne_nil left
  · exact takes_flatMap _ fun line hLine back => SymbolLine.bodyLine_text (hHead line hLine) back

/-- A blank line is no header, whatever follows it. -/
theorem LineRest.header_text (blank : LineRest) (left : List UInt8) :
    header (blank.text ++ left) = none := by
  cases hHeader : header (blank.text ++ left) with
  | none => rfl
  | some found =>
      obtain ⟨line, hText, -⟩ := exists_of_header_eq_some hHeader
      exact absurd (line.isLine_text.append_inj blank.isLine_text hText.symm).1
        (line.text_ne_blank blank)

/-- What is in front of a block, and its first line. -/
structure Opening where
  leading : List UInt8
  type : BlockType
  ending : List UInt8
  rule_absent : ¬ rule <:+: leading
  hyphen_absent : leading.getLast? ≠ some 45
  isLineEnding : IsLineEnding ending

namespace Opening

def text (opening : Opening) : List UInt8 :=
  opening.leading ++ (beginLine opening.type ++ opening.ending)

theorem text_append (opening : Opening) (rest : List UInt8) :
    opening.text ++ rest =
      opening.leading ++ (beginLine opening.type ++ (opening.ending ++ rest)) := by
  simp only [text, List.append_assoc]

/-- A first line with nothing in front of it, as it is written. -/
def bare (type : BlockType) : Opening :=
  ⟨[], type, lineFeed, by decide, by decide, .lineFeed⟩

end Opening

/-- What stands behind the headers: a blank line, the lines of the body, the checksum if there is one,
and the last line. -/
structure Content where
  blank : LineRest
  body : List SymbolLine
  checksum : Option SymbolLine
  lastType : BlockType
  lastEnding : List UInt8
  body_head : ∀ line ∈ body, line.symbols.head? ≠ some Base64.pad
  lastEnding_cases : lastEnding = [] ∨ IsLineEnding lastEnding

namespace Content

def lastText (content : Content) : List UInt8 :=
  endLine content.lastType ++ content.lastEnding

def checksumText (content : Content) : List UInt8 :=
  match content.checksum with
  | some line => Base64.pad :: line.text
  | none => []

def text (content : Content) : List UInt8 :=
  content.blank.text ++ (content.body.flatMap SymbolLine.text ++
    (content.checksumText ++ content.lastText))

/-- The content ends with a line feed if its last line does. -/
theorem exists_text_eq (content : Content) (hEnding : IsLineEnding content.lastEnding) :
    ∃ more, content.text = more ++ lineFeed := by
  obtain ⟨front, hFront⟩ := hEnding.exists_append_lineFeed
  simp only [text, lastText, hFront, ← List.append_assoc]
  exact ⟨_, rfl⟩

/-- The parts of a block with this content. -/
def parts (content : Content) (type : BlockType) (headers : Headers) : Envelope :=
  ⟨type, headers, (content.body.map SymbolLine.symbols).flatten,
    content.checksum.map SymbolLine.symbols, content.lastType⟩

theorem lastLine_lastText {content : Content} {left : List UInt8}
    (hLeft : content.lastEnding = [] → left = []) :
    lastLine (content.lastText ++ left) = some (content.lastType, left) := by
  rw [lastText, List.append_assoc]
  obtain hNone | hEnding := content.lastEnding_cases
  · rw [hNone, hLeft hNone, List.nil_append, List.append_nil]
    exact lastLine_of_end content.lastType
  · exact lastLine_append hEnding content.lastType left

/-- The last line is no line of the body. -/
theorem bodyLine_lastText (content : Content) (left : List UInt8) :
    bodyLine (content.lastText ++ left) = none := by
  rw [lastText, List.append_assoc]
  rfl

theorem bodyLine_checksumText (content : Content) (left : List UInt8) :
    bodyLine (content.checksumText ++ (content.lastText ++ left)) = none := by
  rw [checksumText]
  cases content.checksum with
  | some line => exact bodyLine_of_pad _
  | none => exact content.bodyLine_lastText left

theorem optional_checksumText (content : Content) (left : List UInt8) :
    optional Armor.checksumText (content.checksumText ++ (content.lastText ++ left)) =
      some (content.checksum.map SymbolLine.symbols, content.lastText ++ left) := by
  rw [checksumText]
  cases content.checksum with
  | some line => exact optional_of_some (line.checksumText_text _)
  | none =>
      refine optional_of_none ?_
      rw [List.nil_append, lastText, List.append_assoc]
      rfl

theorem many_bodyLine_text (content : Content) (left : List UInt8) :
    many bodyLine (content.body.flatMap SymbolLine.text ++
      (content.checksumText ++ (content.lastText ++ left))) =
      some (content.body.map SymbolLine.symbols,
        content.checksumText ++ (content.lastText ++ left)) :=
  SymbolLine.many_bodyLine_flatMap content.body_head (content.bodyLine_checksumText left)

/-- No header is taken from the content of a block. -/
theorem header_text (content : Content) (left : List UInt8) :
    header (content.text ++ left) = none := by
  rw [text, List.append_assoc]
  exact content.blank.header_text _

end Content

/-- What is read behind the headers. -/
def contentParts (type : BlockType) (headers : Headers) : Scanner Envelope := do
  blankRest
  let lines ← many bodyLine
  let checksum ← optional checksumText
  let lastType ← lastLine
  return ⟨type, headers, lines.flatten, checksum, lastType⟩

theorem envelope_eq : envelope = (do
    let _ ← before rule
    let type ← firstLine
    let headers ← many header
    contentParts type ⟨headers⟩) := rfl

theorem Content.contentParts_text {content : Content} {left : List UInt8}
    (hLeft : content.lastEnding = [] → left = []) (type : BlockType) (headers : Headers) :
    contentParts type headers (content.text ++ left) = some (content.parts type headers, left) := by
  rw [text]
  simp only [List.append_assoc]
  rw [contentParts, bind_of_some (content.blank.blankRest_text _),
    bind_of_some (content.many_bodyLine_text left), bind_of_some (content.optional_checksumText left),
    bind_of_some (lastLine_lastText hLeft)]
  rfl

theorem exists_of_contentParts_eq_some {type : BlockType} {headers : Headers} {text left : List UInt8}
    {parts : Envelope} (h : contentParts type headers text = some (parts, left)) :
    ∃ content : Content, text = content.text ++ left ∧ parts = content.parts type headers ∧
      (content.lastEnding = [] → left = []) := by
  obtain ⟨_, _, hBlank, hNext⟩ := exists_of_bind_eq_some h
  obtain ⟨lines, _, hLines, hNext⟩ := exists_of_bind_eq_some hNext
  obtain ⟨checksum, behind, hChecksum, hNext⟩ := exists_of_bind_eq_some hNext
  obtain ⟨lastType, _, hLast, hReturn⟩ := exists_of_bind_eq_some hNext
  cases hReturn
  obtain ⟨blank, rfl⟩ := exists_of_blankRest_eq_some hBlank
  obtain ⟨body, rfl, rfl, hBody⟩ := (takes_of_many hLines).exists_eq_flatMap
    (p := fun line : SymbolLine => line.symbols.head? ≠ some Base64.pad) fun text left found hLine => by
      obtain ⟨line, hText, hSymbols, hHead⟩ := exists_of_bodyLine_eq_some hLine
      exact ⟨line, hText, hSymbols, hSymbols ▸ hHead⟩
  obtain ⟨lastEnding, hCases, hLeft, rfl⟩ := exists_of_lastLine_eq_some hLast
  obtain ⟨symbols, rfl, hText⟩ | ⟨rfl, hBehind⟩ := of_optional_eq_some hChecksum
  · obtain ⟨line, rfl, rfl⟩ := exists_of_checksumText_eq_some hText
    refine ⟨⟨blank, body, some line, lastType, lastEnding, hBody, hCases⟩, ?_, rfl, hLeft⟩
    simp [Content.text, Content.checksumText, Content.lastText]
  · refine ⟨⟨blank, body, none, lastType, lastEnding, hBody, hCases⟩, ?_, rfl, hLeft⟩
    simp [Content.text, Content.checksumText, Content.lastText, ← hBehind]

/-- A block as it is written. -/
structure BlockText where
  opening : Opening
  headers : List HeaderLine
  content : Content

namespace BlockText

def text (block : BlockText) : List UInt8 :=
  block.opening.text ++ (HeaderLine.allText block.headers ++ block.content.text)

/-- What the block says, before any of it is decoded. -/
def parts (block : BlockText) : Envelope :=
  block.content.parts block.opening.type (HeaderLine.allHeaders block.headers)

/-- In front of this text all headers are read as they stand, and the last line ends. -/
structure IsRead (block : BlockText) (trailing : List UInt8) : Prop where
  allFound : HeaderLine.AllFound block.headers (block.content.text ++ trailing)
  atEnd : block.content.lastEnding = [] → trailing = []

end BlockText

/-- Behind an opening the lines that are headers are read, and the content. -/
theorem envelope_opening (opening : Opening) (rest : List UInt8) :
    envelope (opening.text ++ rest) =
      (do let headers ← many header; contentParts opening.type ⟨headers⟩ : Scanner Envelope) rest := by
  have hRule : rule <+: beginLine opening.type ++ (opening.ending ++ rest) := by
    simp only [beginLine, List.append_assoc]
    exact List.prefix_append rule _
  rw [opening.text_append, envelope_eq,
    bind_of_some (before_append hRule (not_prefix_append opening.rule_absent opening.hyphen_absent _)),
    bind_of_some (firstLine_append opening.isLineEnding opening.type rest)]

theorem BlockText.envelope_text {block : BlockText} {trailing : List UInt8}
    (h : block.IsRead trailing) :
    envelope (block.text ++ trailing) = some (block.parts, trailing) := by
  have hHeaders := HeaderLine.many_header h.allFound (block.content.header_text trailing)
  simp only [text, List.append_assoc]
  rw [envelope_opening, bind_of_some hHeaders, Content.contentParts_text h.atEnd]
  rfl

/-- What was skipped in front of a rule does not contain it, and no hyphen at its end belongs to it. -/
theorem exists_of_before_rule {text left : List UInt8} {leading : List UInt8}
    (h : before rule text = some (leading, left)) :
    text = leading ++ left ∧ ¬ rule <:+: leading ∧ leading.getLast? ≠ some 45 := by
  obtain ⟨rfl, hRule⟩ := eq_append_of_splitBefore? h
  refine ⟨rfl, not_infix_of_before (by decide) h, fun hLast => ?_⟩
  obtain ⟨front, rfl⟩ := List.getLast?_eq_some_iff.mp hLast
  obtain ⟨rest, rfl⟩ := hRule
  exact not_prefix_of_before h [45] (List.suffix_append _ _) (List.cons_ne_nil _ _)
    ⟨45 :: rest, rfl⟩

theorem exists_opening {text : List UInt8} {result : Envelope × List UInt8}
    (h : envelope text = some result) :
    ∃ (opening : Opening) (rest : List UInt8), text = opening.text ++ rest := by
  rw [envelope_eq] at h
  obtain ⟨leading, _, hBefore, hNext⟩ := exists_of_bind_eq_some h
  obtain ⟨type, rest, hFirst, -⟩ := exists_of_bind_eq_some hNext
  obtain ⟨rfl, hRule, hHyphen⟩ := exists_of_before_rule hBefore
  obtain ⟨ending, hEnding, rfl⟩ := exists_of_firstLine_eq_some hFirst
  refine ⟨⟨leading, type, ending, hRule, hHyphen, hEnding⟩, rest, ?_⟩
  simp only [Opening.text, List.append_assoc]

/-- Whatever the reader takes off behind an opening is the rest of the text of a block. -/
theorem exists_of_envelope_opening {opening : Opening} {rest trailing : List UInt8} {parts : Envelope}
    (h : envelope (opening.text ++ rest) = some (parts, trailing)) :
    ∃ block : BlockText, block.opening = opening ∧ opening.text ++ rest = block.text ++ trailing ∧
      parts = block.parts ∧ block.IsRead trailing := by
  rw [envelope_opening] at h
  obtain ⟨entries, _, hHeaders, hContent⟩ := exists_of_bind_eq_some h
  obtain ⟨lines, rfl, rfl, hFound⟩ := HeaderLine.exists_of_many_header_eq_some hHeaders
  obtain ⟨content, rfl, rfl, hLeft⟩ := exists_of_contentParts_eq_some hContent
  refine ⟨⟨opening, lines, content⟩, rfl, ?_, rfl, hFound, hLeft⟩
  simp only [BlockText.text, List.append_assoc]

/-- The data of a block, if its two types and its checksum are right. -/
def Envelope.data (parts : Envelope) : Except Error (List UInt8) := do
  if parts.type ≠ parts.lastType then
    throw .armorWrappers
  let data ← (Base64.decode parts.body).mapError Error.base64
  if let some checksum := parts.checksum then
    verifyChecksum checksum data
  return data

theorem outcome_read_of_none {text : List UInt8} (h : envelope text = none) :
    (read text).outcome = .error .armorWrappers := by
  rw [read, h]
  rfl

theorem outcome_read_of_some {text left : List UInt8} {parts : Envelope}
    (h : envelope text = some (parts, left)) :
    (read text).outcome = parts.data.map fun data => ⟨parts.type, parts.headers, data⟩ := by
  rw [read, h, Envelope.data]
  dsimp only
  by_cases hTypes : parts.type ≠ parts.lastType
  · rw [if_pos hTypes, if_pos hTypes]
    rfl
  · rw [if_neg hTypes, if_neg hTypes]
    cases (Base64.decode parts.body).mapError Error.base64 with
    | error error => rfl
    | ok data =>
        cases parts.checksum with
        | none => rfl
        | some checksum =>
            change (Logged.ofExcept (verifyChecksum checksum data) >>= _).outcome =
              Except.map _ (verifyChecksum checksum data >>= _)
            cases verifyChecksum checksum data <;> rfl

/-- What the block holds, or why its text is refused. -/
def BlockText.outcome (block : BlockText) : Except Error Block :=
  block.parts.data.map fun data =>
    ⟨block.opening.type, HeaderLine.allHeaders block.headers, data⟩

theorem BlockText.of_outcome_eq_ok {block : BlockText} {found : Block}
    (h : block.outcome = .ok found) :
    block.parts.data = .ok found.data ∧ block.opening.type = found.type ∧
      HeaderLine.allHeaders block.headers = found.headers := by
  rw [outcome] at h
  cases hData : block.parts.data with
  | error error =>
      rw [hData] at h
      cases h
  | ok data =>
      rw [hData] at h
      cases h
      exact ⟨rfl, rfl, rfl⟩

theorem BlockText.outcome_read {block : BlockText} {trailing : List UInt8}
    (h : block.IsRead trailing) : (read (block.text ++ trailing)).outcome = block.outcome :=
  outcome_read_of_some (envelope_text h)

theorem exists_of_outcome_eq_ok {text : List UInt8} {found : Block}
    (h : (read text).outcome = .ok found) : ∃ result, envelope text = some result := by
  cases hEnvelope : envelope text with
  | none =>
      rw [outcome_read_of_none hEnvelope] at h
      cases h
  | some result => exact ⟨result, rfl⟩

/-- Whatever is accepted behind an opening is the rest of the text of a block, and what follows it. -/
theorem exists_of_read_opening {opening : Opening} {rest : List UInt8} {found : Block}
    (h : (read (opening.text ++ rest)).outcome = .ok found) :
    ∃ (block : BlockText) (trailing : List UInt8), block.opening = opening ∧
      opening.text ++ rest = block.text ++ trailing ∧ block.IsRead trailing ∧
      block.outcome = .ok found := by
  obtain ⟨⟨parts, trailing⟩, hEnvelope⟩ := exists_of_outcome_eq_ok h
  obtain ⟨block, hOpening, hText, -, hRead⟩ := exists_of_envelope_opening hEnvelope
  rw [hText, BlockText.outcome_read hRead] at h
  exact ⟨block, trailing, hOpening, hText, hRead, h⟩

end PhraseKey.Armor
