import PhraseKey.Armor.Read
import PhraseKey.Proofs.ScanAcceptance

/-!
The lines behind the headers of a block. A line ends with its only line feed, so that a text is split
into lines in one way; a blank line, a line of the body and a checksum line are taken off if and only
if they stand at the front of the text.
-/

namespace PhraseKey.Armor

open Scanner

/-- The ends of a line. -/
inductive IsLineEnding : List UInt8 → Prop where
  | lineFeed : IsLineEnding lineFeed
  | carriageReturnLineFeed : IsLineEnding carriageReturnLineFeed

theorem lineEnding_append {ending : List UInt8} (hEnding : IsLineEnding ending) (rest : List UInt8) :
    lineEnding (ending ++ rest) = some ((), rest) := by
  cases hEnding <;> rfl

/-- What was taken for the end of a line is one. -/
theorem exists_of_lineEnding_eq_some {text left : List UInt8} {result : Unit}
    (h : lineEnding text = some (result, left)) :
    ∃ ending, IsLineEnding ending ∧ text = ending ++ left := by
  obtain hFeed | hReturn := of_orElse_eq_some h
  · exact ⟨_, .lineFeed, eq_append_of_literal hFeed⟩
  · exact ⟨_, .carriageReturnLineFeed, eq_append_of_literal hReturn⟩

/-- A line feed at the end and nowhere else. -/
def IsLine (line : List UInt8) : Prop :=
  ∃ front, line = front ++ lineFeed ∧ 10 ∉ front

namespace IsLineEnding

variable {ending : List UInt8}

theorem mem (hEnding : IsLineEnding ending) : 10 ∈ ending := by
  cases hEnding <;> decide

theorem colon_not_mem (hEnding : IsLineEnding ending) : 58 ∉ ending := by
  cases hEnding <;> decide

theorem ne_nil (hEnding : IsLineEnding ending) : ending ≠ [] :=
  List.ne_nil_of_mem hEnding.mem

theorem exists_append_lineFeed (hEnding : IsLineEnding ending) :
    ∃ front, ending = front ++ Armor.lineFeed := by
  cases hEnding with
  | lineFeed => exact ⟨[], rfl⟩
  | carriageReturnLineFeed => exact ⟨[13], rfl⟩

theorem append_ne_blank (hEnding : IsLineEnding ending) (rest more : List UInt8) :
    ending ++ rest ≠ 32 :: more := by
  cases hEnding <;> rintro ⟨⟩

/-- A line ends with neither a symbol nor padding. -/
theorem head_not_isBase64 (hEnding : IsLineEnding ending) (rest : List UInt8) :
    ∀ octet ∈ (ending ++ rest).head?, ¬ isBase64 octet := by
  cases hEnding <;> rintro _ ⟨⟩ <;> decide

/-- Where a line ends depends on nothing behind it. -/
theorem append_inj {ending' left rest : List UInt8} (hEnding : IsLineEnding ending)
    (hEnding' : IsLineEnding ending') (h : ending ++ left = ending' ++ rest) :
    ending = ending' ∧ left = rest := by
  cases hEnding <;> cases hEnding' <;> cases h <;> exact ⟨rfl, rfl⟩

theorem isLine_append (hEnding : IsLineEnding ending) {front : List UInt8} (hFront : 10 ∉ front) :
    IsLine (front ++ ending) := by
  cases hEnding with
  | lineFeed => exact ⟨front, rfl, hFront⟩
  | carriageReturnLineFeed =>
      refine ⟨front ++ [13], (List.append_assoc front [13] [10]).symm, fun hMem => ?_⟩
      obtain hMem | hMem := List.mem_append.mp hMem
      · exact hFront hMem
      · cases List.mem_singleton.mp hMem

end IsLineEnding

namespace IsLine

variable {line pattern : List UInt8}

/-- A text starts with one line only. -/
theorem append_inj {line' left rest : List UInt8} (hLine : IsLine line) (hLine' : IsLine line')
    (h : line ++ left = line' ++ rest) : line = line' ∧ left = rest := by
  obtain ⟨front, rfl, hFront⟩ := hLine
  obtain ⟨front', rfl, hFront'⟩ := hLine'
  rw [List.append_assoc, List.append_assoc, List.append_eq_append_iff] at h
  obtain ⟨more, hMore, hLeft⟩ | ⟨more, hMore, hLeft⟩ := h
  · cases more with
    | nil =>
        cases hLeft
        exact ⟨by rw [hMore, List.append_nil], rfl⟩
    | cons octet more =>
        cases hLeft
        exact absurd (hMore ▸ List.mem_append_right _ List.mem_cons_self) hFront'
  · cases more with
    | nil =>
        cases hLeft
        exact ⟨by rw [hMore, List.append_nil], rfl⟩
    | cons octet more =>
        cases hLeft
        exact absurd (hMore ▸ List.mem_append_right _ List.mem_cons_self) hFront

/-- A line that occurs in a text occurs on one side of any end of a line in it. -/
theorem infix_append_iff (hPattern : IsLine pattern) (front rest : List UInt8) :
    pattern <:+: front ++ lineFeed ++ rest ↔ pattern <:+: front ++ lineFeed ∨ pattern <:+: rest := by
  rw [List.infix_append_iff]
  constructor
  · rintro (hFront | hRest | ⟨before, after, hSplit, hBefore, hAfter⟩)
    · exact .inl hFront
    · exact .inr hRest
    · obtain rfl | ⟨more, rfl, -⟩ := List.suffix_concat_iff.mp hBefore
      · exact .inr (hSplit ▸ hAfter.isInfix)
      · -- The pattern has no line feed but at its end, so nothing of it is left.
        obtain ⟨octets, rfl, hOctets⟩ := hPattern
        rw [List.append_assoc] at hSplit
        obtain ⟨rfl, -, -⟩ :=
          (List.append_cons_inj_of_notMem hOctets List.not_mem_nil).mp hSplit
        exact .inl hBefore.isInfix
  · exact Or.imp_right .inl

end IsLine

/-- Blanks and tabs, and the end of a line. -/
structure LineRest where
  blanks : List UInt8
  ending : List UInt8
  isBlank : ∀ octet ∈ blanks, octet = 32 ∨ octet = 9
  isLineEnding : IsLineEnding ending

/-- No blanks, and the end of a line. -/
def IsLineEnding.rest {ending : List UInt8} (hEnding : IsLineEnding ending) : LineRest :=
  ⟨[], ending, List.forall_mem_nil _, hEnding⟩

namespace LineRest

def text (rest : LineRest) : List UInt8 :=
  rest.blanks ++ rest.ending

theorem isLine_text (rest : LineRest) : IsLine rest.text := by
  refine rest.isLineEnding.isLine_append fun hMem => ?_
  obtain hBlank | hTab := rest.isBlank 10 hMem
  · cases hBlank
  · cases hTab

theorem colon_not_mem (rest : LineRest) : 58 ∉ rest.text := by
  intro hMem
  obtain hMem | hMem := List.mem_append.mp hMem
  · obtain hBlank | hTab := rest.isBlank 58 hMem
    · cases hBlank
    · cases hTab
  · exact rest.isLineEnding.colon_not_mem hMem

/-- The rest of a line starts with neither a symbol nor padding. -/
theorem head_not_isBase64 (rest : LineRest) (left : List UInt8) :
    ∀ octet ∈ (rest.text ++ left).head?, ¬ isBase64 octet := by
  obtain ⟨blanks, ending, hBlank, hEnding⟩ := rest
  cases blanks with
  | nil => exact hEnding.head_not_isBase64 left
  | cons blank blanks =>
      rintro octet ⟨⟩
      obtain rfl | rfl := hBlank blank List.mem_cons_self <;> decide

theorem blankRest_text (rest : LineRest) (left : List UInt8) :
    blankRest (rest.text ++ left) = some ((), left) := by
  have hSpan : span (fun octet => octet == 32 || octet == 9) (rest.text ++ left) =
      some (rest.blanks, rest.ending ++ left) := by
    rw [text, List.append_assoc]
    refine span_append (fun octet hOctet => ?_) ?_
    · obtain rfl | rfl := rest.isBlank octet hOctet <;> rfl
    · obtain ⟨-, -, -, hEnding⟩ := rest
      cases hEnding <;> rintro _ ⟨⟩ <;> decide
  rw [blankRest, bind_of_some hSpan]
  exact lineEnding_append rest.isLineEnding left

end LineRest

theorem exists_of_blankRest_eq_some {text left : List UInt8} {result : Unit}
    (h : blankRest text = some (result, left)) : ∃ rest : LineRest, text = rest.text ++ left := by
  obtain ⟨blanks, _, hSpan, hLineEnding⟩ := exists_of_bind_eq_some h
  obtain ⟨rfl, hBlanks⟩ := of_span_eq_some hSpan
  obtain ⟨ending, hEnding, rfl⟩ := exists_of_lineEnding_eq_some hLineEnding
  refine ⟨⟨blanks, ending, fun octet hOctet => ?_, hEnding⟩, (List.append_assoc ..).symm⟩
  simpa using hBlanks octet hOctet

/-- A line of symbols, padding among them, that may end with blanks. -/
structure SymbolLine where
  symbols : List UInt8
  rest : LineRest
  symbols_ne_nil : symbols ≠ []
  isSymbol : ∀ octet ∈ symbols, isBase64 octet

namespace SymbolLine

def text (line : SymbolLine) : List UInt8 :=
  line.symbols ++ line.rest.text

theorem text_ne_nil (line : SymbolLine) : line.text ≠ [] :=
  List.append_ne_nil_of_left_ne_nil line.symbols_ne_nil _

theorem span_text (line : SymbolLine) (left : List UInt8) :
    span isBase64 (line.text ++ left) = some (line.symbols, line.rest.text ++ left) := by
  rw [text, List.append_assoc]
  exact span_append line.isSymbol (line.rest.head_not_isBase64 left)

theorem bodyLine_text {line : SymbolLine} (hHead : line.symbols.head? ≠ some Base64.pad)
    (left : List UInt8) : bodyLine (line.text ++ left) = some (line.symbols, left) := by
  rw [bodyLine, bind_of_some (line.span_text left),
    bind_of_some (guard_of_pos ⟨line.symbols_ne_nil, hHead⟩ _),
    bind_of_some (line.rest.blankRest_text left)]
  rfl

theorem checksumText_text (line : SymbolLine) (left : List UInt8) :
    checksumText (Base64.pad :: line.text ++ left) = some (line.symbols, left) := by
  have hPad : literal [Base64.pad] (Base64.pad :: line.text ++ left) =
      some ((), line.text ++ left) := literal_append [Base64.pad] _
  rw [checksumText, bind_of_some hPad, bind_of_some (line.span_text left),
    bind_of_some (guard_of_pos line.symbols_ne_nil _),
    bind_of_some (line.rest.blankRest_text left)]
  rfl

end SymbolLine

theorem exists_of_bodyLine_eq_some {text left symbols : List UInt8}
    (h : bodyLine text = some (symbols, left)) :
    ∃ line : SymbolLine, text = line.text ++ left ∧ line.symbols = symbols ∧
      symbols.head? ≠ some Base64.pad := by
  obtain ⟨octets, _, hSpan, hNext⟩ := exists_of_bind_eq_some h
  obtain ⟨_, _, hGuard, hNext⟩ := exists_of_bind_eq_some hNext
  obtain ⟨_, _, hBlankRest, hReturn⟩ := exists_of_bind_eq_some hNext
  obtain ⟨rfl, hSymbols⟩ := of_span_eq_some hSpan
  obtain ⟨⟨hNonempty, hHead⟩, hBehind⟩ := of_guard_eq_some hGuard
  cases hBehind
  cases hReturn
  obtain ⟨rest, rfl⟩ := exists_of_blankRest_eq_some hBlankRest
  exact ⟨⟨symbols, rest, hNonempty, hSymbols⟩, (List.append_assoc ..).symm, rfl, hHead⟩

theorem exists_of_checksumText_eq_some {text left symbols : List UInt8}
    (h : checksumText text = some (symbols, left)) :
    ∃ line : SymbolLine, text = Base64.pad :: line.text ++ left ∧ line.symbols = symbols := by
  obtain ⟨_, _, hPad, hNext⟩ := exists_of_bind_eq_some h
  obtain ⟨octets, _, hSpan, hNext⟩ := exists_of_bind_eq_some hNext
  obtain ⟨_, _, hGuard, hNext⟩ := exists_of_bind_eq_some hNext
  obtain ⟨_, _, hBlankRest, hReturn⟩ := exists_of_bind_eq_some hNext
  obtain ⟨rfl, hSymbols⟩ := of_span_eq_some hSpan
  obtain ⟨hNonempty, hBehind⟩ := of_guard_eq_some hGuard
  cases hBehind
  cases hReturn
  obtain ⟨rest, rfl⟩ := exists_of_blankRest_eq_some hBlankRest
  refine ⟨⟨symbols, rest, hNonempty, hSymbols⟩, ?_, rfl⟩
  rw [eq_append_of_literal hPad, SymbolLine.text, ← List.cons_append, List.append_assoc]
  rfl

end PhraseKey.Armor
