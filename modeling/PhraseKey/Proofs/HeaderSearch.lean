import PhraseKey.Proofs.BlockText

/-!
What the search for the end of a key makes of a block. It goes through all of the text behind the key,
so a header is read or not depending on the headers behind it, and on what follows the last line of the
block. Nothing else about a block depends on either: put in front of the content, header lines are
returned as they stand if nothing preferred to their colons occurs behind them, and replacing what
follows the block makes the reader refuse it if something preferred occurs there, and changes nothing
otherwise.
-/

namespace PhraseKey.Armor

open Scanner

namespace HeaderLine

variable {line : HeaderLine} {pattern : List UInt8}

theorem cases_of_mem_preferred (h : pattern ∈ line.preferred) :
    pattern = 58 :: carriageReturnLineFeed ∨ pattern = 58 :: lineFeed := by
  rw [preferred] at h
  split at h
  · simpa using h
  · split at h
    · exact .inl (List.mem_singleton.mp h)
    · cases h

/-- A colon in front of both octets is preferred to all others. -/
theorem return_mem_preferred (h : pattern ∈ line.preferred) :
    58 :: carriageReturnLineFeed ∈ line.preferred := by
  obtain ⟨key, value, ending, hEnding, hKey, hLine, hMark, hValue⟩ := line
  cases value with
  | some value => exact List.mem_cons_self
  | none =>
      cases hEnding with
      | lineFeed => exact List.mem_cons_self
      | carriageReturnLineFeed => cases h

theorem isLine_of_mem_preferred (h : pattern ∈ line.preferred) : IsLine pattern := by
  obtain rfl | rfl := cases_of_mem_preferred h
  · exact ⟨[58, 13], rfl, by decide⟩
  · exact ⟨[58], rfl, by decide⟩

/-- Two headers on one line look for the same before the end of the key, unless the line has it. -/
theorem mem_preferred_of_text_eq {line' : HeaderLine} (hText : line'.text = line.text)
    (hLine : ∀ pattern ∈ line.preferred, ¬ pattern <:+: line.text) (h : pattern ∈ line.preferred) :
    pattern ∈ line'.preferred := by
  have hReturn := hLine _ (return_mem_preferred h)
  have hCases := cases_of_mem_preferred h
  have hHere := hLine _ h
  rw [← hText] at hReturn hHere
  obtain ⟨key, value, ending, hEnding, hKey, hLine, hMark, hValue⟩ := line'
  cases value with
  | some value => simpa [preferred] using hCases
  | none =>
      -- The other header has no value, so its mark and its ending occur in the line.
      have hTail : 58 :: ending <:+: Text.toUtf8 key ++ 58 :: ending :=
        (List.suffix_append _ _).isInfix
      cases hEnding with
      | lineFeed =>
          obtain rfl | rfl := hCases
          · exact List.mem_cons_self
          · exact absurd hTail hHere
      | carriageReturnLineFeed => exact absurd hTail hReturn

/-- A line that is read as it stands in front of one text is read so in front of another, or not at
all. -/
theorem header_eq_none {rest other : List UInt8} (hRest : line.IsFound rest)
    (hOther : ¬ line.IsFound other) : header (line.text ++ other) = none := by
  cases hHeader : header (line.text ++ other) with
  | none => rfl
  | some result =>
      obtain ⟨line', hText, -, hFound⟩ := exists_of_header_eq_some hHeader
      -- Whatever is read takes up this line and no more.
      obtain ⟨hLine, rfl⟩ := line.isLine_text.append_inj line'.isLine_text hText
      refine absurd (fun pattern hPattern => ?_) hOther
      rw [hLine]
      have hAbsent : ∀ pattern ∈ line.preferred, ¬ pattern <:+: line.text :=
        fun pattern hPattern hInfix =>
          hRest pattern hPattern (hInfix.trans (List.infix_append' [] line.text rest))
      exact hFound pattern (mem_preferred_of_text_eq hLine.symm hAbsent hPattern)

/-- Nothing preferred to the colon of any of the lines occurs in the text. -/
def AllAbsent (lines : List HeaderLine) (text : List UInt8) : Prop :=
  ∀ line ∈ lines, ∀ pattern ∈ line.preferred, ¬ pattern <:+: text

instance (lines : List HeaderLine) (text : List UInt8) : Decidable (AllAbsent lines text) :=
  inferInstanceAs (Decidable (∀ line ∈ lines, ∀ pattern ∈ line.preferred, ¬ pattern <:+: text))

theorem isFound_append_iff {front more : List UInt8} (hFront : front = more ++ lineFeed)
    (other : List UInt8) :
    line.IsFound (front ++ other) ↔
      line.IsFound front ∧ ∀ pattern ∈ line.preferred, ¬ pattern <:+: other := by
  subst hFront
  rw [IsFound, IsFound, ← forall₂_and]
  refine forall₂_congr fun pattern hPattern => ?_
  have hSides := (isLine_of_mem_preferred hPattern).infix_append_iff (line.text ++ more) other
  rw [List.append_assoc line.text more, List.append_assoc line.text] at hSides
  rw [hSides, not_or]

/-- Behind the end of a line, a text matters to the headers in front of it by itself. -/
theorem allFound_append_iff {lines : List HeaderLine} {front more : List UInt8}
    (hFront : front = more ++ lineFeed) (other : List UInt8) :
    AllFound lines (front ++ other) ↔ AllFound lines front ∧ AllAbsent lines other := by
  induction lines with
  | nil => simp [AllFound, AllAbsent]
  | cons line lines ih =>
      have hEnd : allText lines ++ front = (allText lines ++ more) ++ lineFeed := by
        rw [hFront, List.append_assoc]
      have hAbsent : AllAbsent (line :: lines) other ↔
          (∀ pattern ∈ line.preferred, ¬ pattern <:+: other) ∧ AllAbsent lines other :=
        List.forall_mem_cons
      rw [AllFound, ← List.append_assoc, isFound_append_iff hEnd, ih, hAbsent]
      exact and_and_and_comm

/-- Lines that were read as they stand are read up to the first that is not. -/
theorem exists_of_not_allFound {lines : List HeaderLine} {rest other : List UInt8}
    (hRest : AllFound lines rest) (hOther : ¬ AllFound lines other) :
    ∃ (entries : List (String × String)) (line : HeaderLine) (left : List UInt8),
      many header (allText lines ++ other) = some (entries, line.text ++ left) := by
  -- By induction on the lines: the first that is disturbed is no header, those before it still are.
  have hTakes : ∃ (entries : List (String × String)) (line : HeaderLine) (left : List UInt8),
      Takes header (allText lines ++ other) entries (line.text ++ left) ∧
        header (line.text ++ left) = none := by
    induction lines with
    | nil => exact absurd trivial hOther
    | cons line lines ih =>
        obtain ⟨hLine, hMore⟩ := hRest
        rw [allText_cons_append]
        by_cases hFound : line.IsFound (allText lines ++ other)
        · obtain ⟨entries, last, left, hTakes, hLast⟩ :=
            ih hMore fun hLines => hOther ⟨hFound, hLines⟩
          exact ⟨_, last, left, .cons (header_text hFound) hTakes, hLast⟩
        · exact ⟨[], line, _, .nil _, header_eq_none hLine hFound⟩
  obtain ⟨entries, line, left, hTakes, hLine⟩ := hTakes
  exact ⟨entries, line, left, many_of_takes (fun _ _ _ => length_lt_of_header_eq_some) hTakes hLine⟩

theorem blankRest_text (line : HeaderLine) (left : List UInt8) :
    blankRest (line.text ++ left) = none := by
  cases hBlank : blankRest (line.text ++ left) with
  | none => rfl
  | some result =>
      obtain ⟨rest, hText⟩ := exists_of_blankRest_eq_some hBlank
      exact absurd (line.isLine_text.append_inj rest.isLine_text hText).1 (line.text_ne_blank rest)

end HeaderLine

open HeaderLine

/-- A block is refused where the lines that are read as headers end in front of one that is not. -/
theorem outcome_read_of_many_header {opening : Opening} {rest left : List UInt8} {line : HeaderLine}
    {entries : List (String × String)} (h : many header rest = some (entries, line.text ++ left)) :
    (read (opening.text ++ rest)).outcome = .error .armorWrappers := by
  refine outcome_read_of_none ?_
  rw [envelope_opening, bind_of_some h]
  exact bind_of_none (line.blankRest_text left) _

namespace BlockText

/-- A block without headers, with these lines behind its opening. -/
def withHeaders (block : BlockText) (lines : List HeaderLine) : BlockText :=
  { block with headers := lines }

theorem isRead_withHeaders {block : BlockText} {trailing : List UInt8} (h : block.IsRead trailing)
    {lines : List HeaderLine} (hLines : AllFound lines (block.content.text ++ trailing)) :
    (block.withHeaders lines).IsRead trailing :=
  ⟨hLines, h.atEnd⟩

theorem outcome_withHeaders {block : BlockText} {found : Block} (h : block.outcome = .ok found)
    (lines : List HeaderLine) :
    (block.withHeaders lines).outcome = .ok ⟨found.type, allHeaders lines, found.data⟩ := by
  obtain ⟨hData, hType, -⟩ := of_outcome_eq_ok h
  have hSame : (block.withHeaders lines).parts.data = .ok found.data := hData
  rw [outcome, hSame, ← hType]
  rfl

/-- Lines in front of some text are what is found there only if all of them are read as they stand. -/
theorem allFound_of_read {opening : Opening} {lines : List HeaderLine} {rest : List UInt8}
    {found : Block} (hFound : found.headers = allHeaders lines)
    (h : (read (opening.text ++ (allText lines ++ rest))).outcome = .ok found) :
    AllFound lines rest := by
  obtain ⟨block, trailing, rfl, hText, hRead, hOutcome⟩ := exists_of_read_opening h
  obtain ⟨-, -, hHeaders⟩ := of_outcome_eq_ok hOutcome
  rw [text, List.append_assoc, List.append_cancel_left_eq, List.append_assoc] at hText
  have hMany := many_header hRead.allFound (block.content.header_text trailing)
  have hEntries : block.headers.map entry = lines.map entry :=
    congrArg Headers.lines (hHeaders.trans hFound)
  rw [← hText, hEntries] at hMany
  exact (allFound_of_many_header_eq_some hMany).2

/-- The last line of a block ends it, so what is behind matters to its headers by itself. -/
theorem allFound_append_iff (block : BlockText) (hEnding : IsLineEnding block.content.lastEnding)
    (other : List UInt8) :
    AllFound block.headers (block.content.text ++ other) ↔
      AllFound block.headers block.content.text ∧ AllAbsent block.headers other := by
  obtain ⟨more, hMore⟩ := block.content.exists_text_eq hEnding
  exact HeaderLine.allFound_append_iff hMore other

theorem isRead_other {block : BlockText} {trailing other : List UInt8} (h : block.IsRead trailing)
    (hEnding : IsLineEnding block.content.lastEnding) (hOther : AllAbsent block.headers other) :
    block.IsRead other := by
  have hFound := ((block.allFound_append_iff hEnding trailing).mp h.allFound).1
  exact ⟨(block.allFound_append_iff hEnding other).mpr ⟨hFound, hOther⟩,
    fun hNone => absurd hNone hEnding.ne_nil⟩

end BlockText

/-- Headers of a block without any. Its text has an opening and something behind it, and whichever
lines are put between the two, the block is read with its type, its data and the headers they say, in
order, if and only if nothing preferred to the colon of one of them occurs in that line or anywhere
behind it. The headers then have the keys of the lines, and for each key its values in order. -/
theorem read_inserted_headers {text data : List UInt8} {type : BlockType}
    (h : (read text).outcome = .ok ⟨type, ⟨[]⟩, data⟩) :
    (∃ (opening : Opening) (rest : List UInt8), text = opening.text ++ rest) ∧
    ∀ (opening : Opening) (rest : List UInt8), text = opening.text ++ rest →
      opening.type = type ∧ ∀ lines : List HeaderLine,
        ((read (opening.text ++ (allText lines ++ rest))).outcome =
          .ok ⟨type, allHeaders lines, data⟩ ↔ AllFound lines rest) ∧
        (∀ key, key ∈ (allHeaders lines).keys ↔ ∃ line ∈ lines, line.key = key) ∧
        ∀ key, (allHeaders lines).values key =
          (lines.filter (·.key = key)).map fun line => line.value.getD "" := by
  obtain ⟨result, hEnvelope⟩ := exists_of_outcome_eq_ok h
  refine ⟨exists_opening hEnvelope, fun opening rest hText => ?_⟩
  subst hText
  obtain ⟨block, trailing, rfl, hText, hRead, hOutcome⟩ := exists_of_read_opening h
  obtain ⟨-, hType, hHeaders⟩ := BlockText.of_outcome_eq_ok hOutcome
  have hNone : block.headers = [] := List.map_eq_nil_iff.mp (congrArg Headers.lines hHeaders)
  obtain rfl : rest = block.content.text ++ trailing := by
    rw [BlockText.text, List.append_assoc, List.append_cancel_left_eq, hNone] at hText
    exact hText
  refine ⟨hType, fun lines => ⟨⟨BlockText.allFound_of_read rfl, fun hLines => ?_⟩,
    fun key => mem_keys_allHeaders, values_allHeaders lines⟩⟩
  have hInserted := BlockText.outcome_read (BlockText.isRead_withHeaders hRead hLines)
  rw [BlockText.outcome_withHeaders hOutcome, BlockText.text, List.append_assoc,
    List.append_assoc] at hInserted
  exact hInserted

/-- The packet of a user id as a message, with these headers, and with this behind it. -/
def messageText (headers trailing : String) : List UInt8 :=
  Text.toUtf8 ("-----BEGIN PGP MESSAGE-----\n" ++ headers ++
    "\nzQNhYmM=\n=dVX8\n-----END PGP MESSAGE-----\n" ++ trailing)

/-- What the message holds. -/
def messageBlock (headers : List (String × String)) : Block :=
  ⟨.message, ⟨headers⟩, [0xCD, 0x03, 0x61, 0x62, 0x63]⟩

/-- A header with a value is read. -/
theorem read_inserted_headers_comment :
    (read (messageText "" "")).outcome = .ok (messageBlock []) ∧
    (read (messageText "Comment: hello\n" "")).outcome =
      .ok (messageBlock [("Comment", "hello")]) := by
  have hPlain : (read (messageText "" "")).outcome = .ok (messageBlock []) := by decide +kernel
  let opening : Opening := ⟨[], .message, lineFeed, by decide, by decide, .lineFeed⟩
  let rest := Text.toUtf8 "\nzQNhYmM=\n=dVX8\n-----END PGP MESSAGE-----\n"
  let line := plain "Comment" "hello" .lineFeed (by decide) (by decide +kernel) (by decide +kernel)
  have hLine : line.IsFound rest := by decide +kernel
  have hRead := ((read_inserted_headers hPlain).2 opening rest (by decide +kernel)).2 [line]
  have hText : messageText "Comment: hello\n" "" = opening.text ++ (allText [line] ++ rest) := by
    decide +kernel
  rw [hText]
  exact ⟨hPlain, hRead.1.mpr ⟨hLine, trivial⟩⟩

/-- A header whose value is empty keeps the one in front of it from being read: the colon at the end of
its line is taken for the end of both keys. -/
theorem read_header_before_empty :
    (read (messageText "" "")).outcome = .ok (messageBlock []) ∧
    (read (messageText "Comment: hello\nVersion:\n" "")).outcome = .error .armorWrappers := by
  decide +kernel

/-- What stands behind the last line. A text that is accepted is that of a block and what was left
behind it. The last line ends with the text, or whatever replaces what is behind it makes the reader
refuse the text if something preferred to the colon of a header occurs in it, and changes nothing
otherwise; a block without headers cannot be disturbed. -/
theorem read_replaced_trailing {text : List UInt8} {found : Block}
    (h : (read text).outcome = .ok found) :
    ∃ (block : BlockText) (trailing : List UInt8), text = block.text ++ trailing ∧
      envelope text = some (block.parts, trailing) ∧ allHeaders block.headers = found.headers ∧
      (block.content.lastEnding = [] ∧ trailing = [] ∨
        IsLineEnding block.content.lastEnding ∧ ∀ other,
          (read (block.text ++ other)).outcome =
            if AllAbsent block.headers other then .ok found else .error .armorWrappers) := by
  obtain ⟨result, hEnvelope⟩ := exists_of_outcome_eq_ok h
  obtain ⟨opening, rest, rfl⟩ := exists_opening hEnvelope
  obtain ⟨block, trailing, rfl, hText, hRead, hOutcome⟩ := exists_of_read_opening h
  obtain ⟨-, -, hHeaders⟩ := BlockText.of_outcome_eq_ok hOutcome
  refine ⟨block, trailing, hText, hText ▸ BlockText.envelope_text hRead, hHeaders, ?_⟩
  obtain hNone | hEnding := block.content.lastEnding_cases
  · exact .inl ⟨hNone, hRead.atEnd hNone⟩
  · refine .inr ⟨hEnding, fun other => ?_⟩
    split
    · next hOther =>
        exact (BlockText.outcome_read (BlockText.isRead_other hRead hEnding hOther)).trans hOutcome
    · next hOther =>
        have hDisturbed : ¬ AllFound block.headers (block.content.text ++ other) :=
          fun hFound => hOther ((block.allFound_append_iff hEnding other).mp hFound).2
        obtain ⟨entries, line, left, hMany⟩ := exists_of_not_allFound hRead.allFound hDisturbed
        rw [BlockText.text, List.append_assoc, List.append_assoc]
        exact outcome_read_of_many_header hMany

/-- A block with a header and a value, in front of nothing. -/
theorem read_replaced_trailing_comment :
    (read (messageText "Comment: hello\n" "")).outcome = .ok (messageBlock [("Comment", "hello")]) ∧
    ∃ (block : BlockText) (trailing : List UInt8),
      messageText "Comment: hello\n" "" = block.text ++ trailing ∧
      envelope (messageText "Comment: hello\n" "") = some (block.parts, trailing) ∧
      allHeaders block.headers = (messageBlock [("Comment", "hello")]).headers ∧
      (block.content.lastEnding = [] ∧ trailing = [] ∨
        IsLineEnding block.content.lastEnding ∧ ∀ other,
          (read (block.text ++ other)).outcome =
            if AllAbsent block.headers other then .ok (messageBlock [("Comment", "hello")])
            else .error .armorWrappers) := by
  have hRead : (read (messageText "Comment: hello\n" "")).outcome =
      .ok (messageBlock [("Comment", "hello")]) := by decide +kernel
  exact ⟨hRead, read_replaced_trailing hRead⟩

/-- A line with a colon at its end behind a block keeps a header of the block from being read. -/
theorem read_block_before_colon :
    (read (messageText "Comment: hello\n" "")).outcome = .ok (messageBlock [("Comment", "hello")]) ∧
    (read (messageText "Comment: hello\n" "seen:\n")).outcome = .error .armorWrappers := by
  decide +kernel

end PhraseKey.Armor
