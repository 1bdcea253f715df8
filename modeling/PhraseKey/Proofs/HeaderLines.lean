import PhraseKey.Proofs.TextLines

/-!
Header lines. The end of a key is looked for in all of the text that is left, and a colon at the end of
any line is preferred to a colon in front of a value. A line is read as it stands if and only if nothing
that is preferred to its own colon occurs in it or anywhere behind it.
-/

namespace PhraseKey

namespace Text

theorem ofUtf8?_toUtf8 (text : String) : ofUtf8? (toUtf8 text) = some text := by
  have hValid : ByteArray.IsValidUTF8 ⟨(toUtf8 text).toArray⟩ := text.isValidUTF8
  rw [ofUtf8?, String.fromUTF8?, dif_pos hValid]
  rfl

theorem toUtf8_ne_nil {text : String} (h : text ≠ "") : toUtf8 text ≠ [] := by
  intro hOctets
  have hText := ofUtf8?_toUtf8 text
  rw [hOctets] at hText
  exact h (Option.some.inj hText).symm

theorem toUtf8_of_ofUtf8? {octets : List UInt8} {text : String} (h : ofUtf8? octets = some text) :
    toUtf8 text = octets := by
  rw [ofUtf8?, String.fromUTF8?] at h
  split at h
  · cases h
    rfl
  · cases h

end Text

namespace Armor

open Scanner

theorem someBefore_eq_none {pattern text : List UInt8} (h : ¬ pattern <:+: text) :
    someBefore pattern text = none :=
  bind_of_none (before_eq_none_iff.mpr h) _

/-- No pattern that starts with its only colon reaches over the colon behind a key. -/
theorem not_prefix_append_colon {key tail : List UInt8} (hKey : key ≠ []) (hTail : 58 ∉ tail)
    (hMark : ¬ 58 :: tail <:+: key) (more : List UInt8) : ¬ 58 :: tail <+: key ++ 58 :: more := by
  intro hPrefix
  obtain hInside | ⟨across, hAcross⟩ :=
    List.prefix_or_prefix_of_prefix hPrefix (List.prefix_append key (58 :: more))
  · exact hMark hInside.isInfix
  · obtain ⟨first, key, rfl⟩ := List.exists_cons_of_ne_nil hKey
    rw [List.cons_append, List.cons.injEq] at hAcross
    obtain ⟨rfl, rfl⟩ := hAcross
    rw [List.cons_append, List.cons_prefix_cons, List.prefix_append_right_inj] at hPrefix
    cases across with
    | nil =>
        rw [List.append_nil] at hMark
        exact hMark List.infix_rfl
    | cons octet across =>
        obtain ⟨rfl, -⟩ := List.cons_prefix_cons.mp hPrefix.2
        exact hTail (List.mem_append_right _ List.mem_cons_self)

theorem someBefore_append {key tail more : List UInt8} (hKey : key ≠ []) (hTail : 58 ∉ tail)
    (hMark : ¬ 58 :: tail <:+: key) (hMore : tail <+: more) :
    someBefore (58 :: tail) (key ++ 58 :: more) = some (key, 58 :: more) := by
  have hFirst : ∀ back, back <:+ key → back ≠ [] → ¬ 58 :: tail <+: back ++ 58 :: more :=
    fun back hBack hNonempty =>
      not_prefix_append_colon hNonempty hTail (fun hInfix => hMark (hInfix.trans hBack.isInfix)) more
  rw [someBefore, bind_of_some (before_append ((List.prefix_cons_inj 58).mpr hMore) hFirst),
    bind_of_some (guard_of_pos hKey _)]
  rfl

/-- What is in front of a pattern does not contain it. -/
theorem exists_of_someBefore_eq_some {tail text found left : List UInt8}
    (h : someBefore (58 :: tail) text = some (found, left)) :
    ∃ more, left = 58 :: more ∧ text = found ++ 58 :: more ∧ tail <+: more ∧ found ≠ [] ∧
      ¬ 58 :: tail <:+: found := by
  obtain ⟨front, back, hBefore, hNext⟩ := exists_of_bind_eq_some h
  obtain ⟨_, _, hGuard, hReturn⟩ := exists_of_bind_eq_some hNext
  obtain ⟨hNonempty, hBack⟩ := of_guard_eq_some hGuard
  cases hBack
  cases hReturn
  obtain ⟨hText, more, rfl⟩ := eq_append_of_splitBefore? hBefore
  exact ⟨tail ++ more, rfl, hText, List.prefix_append _ _, hNonempty,
    not_infix_of_before (List.cons_ne_nil _ _) hBefore⟩

theorem IsLineEnding.not_within {ending octets : List UInt8} (hEnding : IsLineEnding ending)
    (hLine : 10 ∉ octets) : ¬ 58 :: ending <:+: octets :=
  fun hInfix => hLine (hInfix.subset (List.mem_cons_of_mem _ hEnding.mem))

/-- A colon at the end of a line that is not found behind a key does not occur. -/
theorem not_infix_of_someBefore_eq_none {key ending more : List UInt8} (hEnding : IsLineEnding ending)
    (hKey : key ≠ []) (hLine : 10 ∉ key)
    (h : someBefore (58 :: ending) (key ++ 58 :: more) = none) :
    ¬ 58 :: ending <:+: key ++ 58 :: more := by
  refine before_eq_none_iff.mp ?_
  cases hBefore : before (58 :: ending) (key ++ 58 :: more) with
  | none => rfl
  | some found =>
      obtain ⟨front, left⟩ := found
      obtain ⟨hText, hPrefix⟩ := eq_append_of_splitBefore? hBefore
      have hFront : front ≠ [] := by
        rintro rfl
        rw [List.nil_append] at hText
        rw [← hText] at hPrefix
        exact not_prefix_append_colon hKey hEnding.colon_not_mem (hEnding.not_within hLine) more hPrefix
      rw [someBefore, bind_of_some hBefore, bind_of_some (guard_of_pos hFront _)] at h
      cases h

/-- A line with the key of a header and its value, or with the key alone. -/
structure HeaderLine where
  key : String
  value : Option String
  ending : List UInt8
  isLineEnding : IsLineEnding ending
  key_ne_nil : Text.toUtf8 key ≠ []
  key_line : 10 ∉ Text.toUtf8 key
  key_mark : value.isSome → ¬ [58, 32] <:+: Text.toUtf8 key
  value_line : ∀ text ∈ value, ∀ octet ∈ Text.toUtf8 text, octet ≠ 10 ∧ octet ≠ 13

namespace HeaderLine

/-- The line behind the colon. -/
def tail (line : HeaderLine) : List UInt8 :=
  match line.value with
  | some value => 32 :: Text.toUtf8 value ++ line.ending
  | none => line.ending

def text (line : HeaderLine) : List UInt8 :=
  Text.toUtf8 line.key ++ 58 :: line.tail

/-- What the line says: no value is an empty one. -/
def entry (line : HeaderLine) : String × String :=
  (line.key, line.value.getD "")

/-- What the lines say, in order. -/
def allHeaders (lines : List HeaderLine) : Headers :=
  ⟨lines.map entry⟩

theorem mem_keys_allHeaders {lines : List HeaderLine} {key : String} :
    key ∈ (allHeaders lines).keys ↔ ∃ line ∈ lines, line.key = key := by
  rw [Headers.keys, List.mem_eraseDups, allHeaders, List.map_map, List.mem_map]
  rfl

theorem values_allHeaders (lines : List HeaderLine) (key : String) :
    (allHeaders lines).values key =
      (lines.filter (·.key = key)).map fun line => line.value.getD "" := by
  rw [Headers.values, allHeaders, List.filterMap_map, ← List.filterMap_eq_map, List.filterMap_filter]
  simp only [decide_eq_true_eq]
  rfl

/-- The line for a key without colons. -/
def plain (key value : String) {ending : List UInt8} (hEnding : IsLineEnding ending) (hKey : key ≠ "")
    (hKeyLine : ∀ octet ∈ Text.toUtf8 key, octet ≠ 10 ∧ octet ≠ 58)
    (hValue : ∀ octet ∈ Text.toUtf8 value, octet ≠ 10 ∧ octet ≠ 13) : HeaderLine where
  key := key
  value := if value = "" then none else some value
  ending := ending
  isLineEnding := hEnding
  key_ne_nil := Text.toUtf8_ne_nil hKey
  key_line := fun hMem => (hKeyLine 10 hMem).1 rfl
  key_mark := fun _ hMark => (hKeyLine 58 (hMark.subset List.mem_cons_self)).2 rfl
  value_line := by
    intro text hText
    split at hText
    · cases hText
    · exact Option.some.inj hText ▸ hValue

/-- What is taken for the end of a key before the colon of this line is, wherever it occurs. -/
def preferred (line : HeaderLine) : List (List UInt8) :=
  match line.value with
  | some _ => [58 :: carriageReturnLineFeed, 58 :: lineFeed]
  | none => if line.ending = lineFeed then [58 :: carriageReturnLineFeed] else []

/-- Nothing preferred occurs in the line or in what follows it. -/
def IsFound (line : HeaderLine) (rest : List UInt8) : Prop :=
  ∀ pattern ∈ line.preferred, ¬ pattern <:+: line.text ++ rest

instance (line : HeaderLine) (rest : List UInt8) : Decidable (line.IsFound rest) :=
  inferInstanceAs (Decidable (∀ pattern ∈ line.preferred, ¬ pattern <:+: line.text ++ rest))

end HeaderLine

theorem headerKey_of_some {key : String} {text left : List UInt8} (hLine : 10 ∉ Text.toUtf8 key)
    (h : (someBefore (58 :: carriageReturnLineFeed) <|> someBefore (58 :: lineFeed) <|>
      someBefore [58, 32]) text = some (Text.toUtf8 key, left)) :
    headerKey text = some (key, left) := by
  have hKey : (Text.ofUtf8? (Text.toUtf8 key) : Scanner String) left = some (key, left) := by
    rw [Text.ofUtf8?_toUtf8]
    rfl
  rw [headerKey, bind_of_some h, bind_of_some hKey, bind_of_some (guard_of_pos hLine _)]
  rfl

theorem headerValue_blank {value : String} {ending : List UInt8} (hEnding : IsLineEnding ending)
    (hLine : ∀ octet ∈ Text.toUtf8 value, octet ≠ 10 ∧ octet ≠ 13) (rest : List UInt8) :
    headerValue (32 :: Text.toUtf8 value ++ ending ++ rest) = some (value, rest) := by
  have hBlank : literal [32] (32 :: Text.toUtf8 value ++ ending ++ rest) =
      some ((), Text.toUtf8 value ++ (ending ++ rest)) := by
    rw [List.append_assoc]
    exact literal_append [32] _
  have hSpan : span (fun octet => octet != 10 && octet != 13)
      (Text.toUtf8 value ++ (ending ++ rest)) = some (Text.toUtf8 value, ending ++ rest) := by
    refine span_append (fun octet hOctet => ?_) ?_
    · simp [hLine octet hOctet]
    · cases hEnding <;> rintro _ ⟨⟩ <;> decide
  have hValue : (Text.ofUtf8? (Text.toUtf8 value) : Scanner String) (ending ++ rest) =
      some (value, ending ++ rest) := by
    rw [Text.ofUtf8?_toUtf8]
    rfl
  refine orElse_of_some ?_ _
  rw [bind_of_some hBlank, bind_of_some hSpan, bind_of_some hValue,
    bind_of_some (lineEnding_append hEnding rest)]
  rfl

theorem headerValue_bare {ending : List UInt8} (hEnding : IsLineEnding ending) (rest : List UInt8) :
    headerValue (ending ++ rest) = some ("", rest) := by
  cases hEnding <;> rfl

namespace HeaderLine

theorem text_append (line : HeaderLine) (rest : List UInt8) :
    line.text ++ rest = Text.toUtf8 line.key ++ 58 :: (line.tail ++ rest) := by
  rw [text, List.append_assoc, List.cons_append]

theorem headerKey_text {line : HeaderLine} {rest : List UInt8} (h : line.IsFound rest) :
    headerKey (line.text ++ rest) = some (line.key, 58 :: (line.tail ++ rest)) := by
  refine headerKey_of_some line.key_line ?_
  obtain ⟨key, value, ending, hEnding, hKey, hLine, hMark, hValue⟩ := line
  rw [IsFound, text_append] at h
  rw [text_append]
  cases value with
  | some value =>
      have hReturn := h (58 :: carriageReturnLineFeed) List.mem_cons_self
      have hFeed := h (58 :: lineFeed) (List.mem_cons_of_mem _ List.mem_cons_self)
      rw [orElse_of_none (someBefore_eq_none hReturn),
        orElse_of_none (someBefore_eq_none hFeed)]
      exact someBefore_append hKey (by decide) (hMark rfl) (List.prefix_append [32] _)
  | none =>
      cases hEnding with
      | lineFeed =>
          have hReturn := h (58 :: carriageReturnLineFeed) List.mem_cons_self
          rw [orElse_of_none (someBefore_eq_none hReturn)]
          exact orElse_of_some (someBefore_append hKey (by decide)
            (IsLineEnding.lineFeed.not_within hLine) (List.prefix_append _ _)) _
      | carriageReturnLineFeed =>
          exact orElse_of_some (someBefore_append hKey (by decide)
            (IsLineEnding.carriageReturnLineFeed.not_within hLine) (List.prefix_append _ _)) _

theorem headerValue_tail (line : HeaderLine) (rest : List UInt8) :
    headerValue (line.tail ++ rest) = some (line.value.getD "", rest) := by
  obtain ⟨key, value, ending, hEnding, hKey, hLine, hMark, hValue⟩ := line
  cases value with
  | some value => exact headerValue_blank hEnding (hValue value rfl) rest
  | none => exact headerValue_bare hEnding rest

/-- A line is read as it stands if nothing preferred occurs. -/
theorem header_text {line : HeaderLine} {rest : List UInt8} (h : line.IsFound rest) :
    header (line.text ++ rest) = some (line.entry, rest) := by
  have hColon : literal [58] (58 :: (line.tail ++ rest)) = some ((), line.tail ++ rest) :=
    literal_append [58] _
  rw [header, bind_of_some (headerKey_text h), bind_of_some hColon,
    bind_of_some (line.headerValue_tail rest)]
  rfl

end HeaderLine

theorem of_lift_eq_some {α : Type} {value? : Option α} {text left : List UInt8} {value : α}
    (h : (liftM value? : Scanner α) text = some (value, left)) : value? = some value ∧ left = text := by
  cases value? with
  | none => cases h
  | some found =>
      cases h
      exact ⟨rfl, rfl⟩

/-- A key that was taken off is followed by its mark, and what was looked for before does not occur. -/
theorem exists_of_headerKey_eq_some {text left : List UInt8} {key : String}
    (h : headerKey text = some (key, left)) :
    ∃ more, text = Text.toUtf8 key ++ 58 :: more ∧ left = 58 :: more ∧ Text.toUtf8 key ≠ [] ∧
      10 ∉ Text.toUtf8 key ∧
      (carriageReturnLineFeed <+: more ∨ ¬ 58 :: carriageReturnLineFeed <:+: text ∧
        (lineFeed <+: more ∨ ¬ 58 :: lineFeed <:+: text ∧
          [32] <+: more ∧ ¬ [58, 32] <:+: Text.toUtf8 key)) := by
  obtain ⟨octets, found, hOctets, hNext⟩ := exists_of_bind_eq_some h
  obtain ⟨_, _, hText, hNext⟩ := exists_of_bind_eq_some hNext
  obtain ⟨_, _, hGuard, hReturn⟩ := exists_of_bind_eq_some hNext
  obtain ⟨hLine, hLeft⟩ := of_guard_eq_some hGuard
  obtain ⟨hKey, hFound⟩ := of_lift_eq_some hText
  cases hLeft
  cases hReturn
  have hKey := Text.toUtf8_of_ofUtf8? hKey
  subst hKey hFound
  cases hReturn : someBefore (58 :: carriageReturnLineFeed) text with
  | some result =>
      rw [orElse_of_some hReturn] at hOctets
      cases hOctets
      obtain ⟨more, rfl, hText, hMark, hNonempty, -⟩ := exists_of_someBefore_eq_some hReturn
      exact ⟨more, hText, rfl, hNonempty, hLine, .inl hMark⟩
  | none =>
      rw [orElse_of_none hReturn] at hOctets
      cases hFeed : someBefore (58 :: lineFeed) text with
      | some result =>
          rw [orElse_of_some hFeed] at hOctets
          cases hOctets
          obtain ⟨more, rfl, rfl, hMark, hNonempty, -⟩ := exists_of_someBefore_eq_some hFeed
          have hNoReturn :=
            not_infix_of_someBefore_eq_none .carriageReturnLineFeed hNonempty hLine hReturn
          exact ⟨more, rfl, rfl, hNonempty, hLine, .inr ⟨hNoReturn, .inl hMark⟩⟩
      | none =>
          rw [orElse_of_none hFeed] at hOctets
          obtain ⟨more, rfl, rfl, hMark, hNonempty, hOnce⟩ := exists_of_someBefore_eq_some hOctets
          have hNoReturn :=
            not_infix_of_someBefore_eq_none .carriageReturnLineFeed hNonempty hLine hReturn
          have hNoFeed := not_infix_of_someBefore_eq_none .lineFeed hNonempty hLine hFeed
          exact ⟨more, rfl, rfl, hNonempty, hLine,
            .inr ⟨hNoReturn, .inr ⟨hNoFeed, hMark, hOnce⟩⟩⟩

/-- A value that was taken off is the line behind a blank, or nothing at the end of the line. -/
theorem exists_of_headerValue_eq_some {text left : List UInt8} {value : String}
    (h : headerValue text = some (value, left)) :
    (∃ ending, IsLineEnding ending ∧ text = 32 :: Text.toUtf8 value ++ ending ++ left ∧
      ∀ octet ∈ Text.toUtf8 value, octet ≠ 10 ∧ octet ≠ 13) ∨
    (∃ ending, IsLineEnding ending ∧ text = ending ++ left ∧ value = "") := by
  obtain h | h := of_orElse_eq_some h
  · obtain ⟨_, behind, hBlank, hNext⟩ := exists_of_bind_eq_some h
    obtain ⟨octets, found, hSpan, hNext⟩ := exists_of_bind_eq_some hNext
    obtain ⟨_, _, hText, hNext⟩ := exists_of_bind_eq_some hNext
    obtain ⟨_, _, hEnding, hReturn⟩ := exists_of_bind_eq_some hNext
    obtain ⟨hValue, hFound⟩ := of_lift_eq_some hText
    have hValue := Text.toUtf8_of_ofUtf8? hValue
    obtain ⟨ending, hIsEnding, hRest⟩ := exists_of_lineEnding_eq_some hEnding
    obtain ⟨hBehind, hOctets⟩ := of_span_eq_some hSpan
    cases hReturn
    subst hValue hFound hRest hBehind
    refine .inl ⟨ending, hIsEnding, ?_, fun octet hOctet => ?_⟩
    · rw [eq_append_of_literal hBlank, List.append_assoc]
      rfl
    · have hLine := hOctets octet hOctet
      simpa using hLine
  · obtain ⟨_, _, hEnding, hReturn⟩ := exists_of_bind_eq_some h
    obtain ⟨ending, hIsEnding, rfl⟩ := exists_of_lineEnding_eq_some hEnding
    cases hReturn
    exact .inr ⟨ending, hIsEnding, rfl, rfl⟩

/-- What was taken off as a header is a line that is read as it stands. -/
theorem exists_of_header_eq_some {text left : List UInt8} {entry : String × String}
    (h : header text = some (entry, left)) :
    ∃ line : HeaderLine, text = line.text ++ left ∧ line.entry = entry ∧ line.IsFound left := by
  obtain ⟨key, _, hHeaderKey, hNext⟩ := exists_of_bind_eq_some h
  obtain ⟨_, behind, hColon, hNext⟩ := exists_of_bind_eq_some hNext
  obtain ⟨value, _, hHeaderValue, hReturn⟩ := exists_of_bind_eq_some hNext
  cases hReturn
  obtain ⟨more, rfl, rfl, hKey, hLine, hMark⟩ := exists_of_headerKey_eq_some hHeaderKey
  obtain rfl : more = behind := (List.cons.inj (eq_append_of_literal hColon)).2
  obtain ⟨ending, hEnding, rfl, hValue⟩ | ⟨ending, hEnding, rfl, rfl⟩ :=
    exists_of_headerValue_eq_some hHeaderValue
  · -- A colon at the end of a line is in front of no blank.
    obtain ⟨_, hReturn⟩ | ⟨hNoReturn, ⟨_, hFeed⟩ | ⟨hNoFeed, -, hOnce⟩⟩ := hMark
    · cases hReturn
    · cases hFeed
    · refine ⟨⟨key, some value, ending, hEnding, hKey, hLine, fun _ => hOnce,
        fun text hText => Option.some.inj hText ▸ hValue⟩, ?_, rfl, ?_⟩
      · rw [HeaderLine.text_append]
        rfl
      · rw [HeaderLine.IsFound, HeaderLine.text_append]
        exact List.forall_mem_cons.mpr ⟨hNoReturn, List.forall_mem_singleton.mpr hNoFeed⟩
  · refine ⟨⟨key, none, ending, hEnding, hKey, hLine, fun hSome => Bool.noConfusion hSome,
      fun _ hText => absurd hText (Option.not_mem_none _)⟩, ?_, rfl, ?_⟩
    · rw [HeaderLine.text_append]
      rfl
    · rw [HeaderLine.IsFound, HeaderLine.text_append]
      cases hEnding with
      | lineFeed =>
          obtain ⟨_, hReturn⟩ | ⟨hNoReturn, -⟩ := hMark
          · cases hReturn
          · exact List.forall_mem_singleton.mpr hNoReturn
      | carriageReturnLineFeed => exact List.forall_mem_nil _

namespace HeaderLine

/-- Only the ways to write an empty value tell lines with one entry apart. -/
theorem eq_of_entry_eq {line line' : HeaderLine} {left rest : List UInt8}
    (hEntry : line.entry = line'.entry) (hText : line.text ++ left = line'.text ++ rest) :
    line = line' ∧ left = rest := by
  rw [text_append, text_append] at hText
  obtain ⟨key, value, ending, hEnding, hKey, hLine, hMark, hValue⟩ := line
  obtain ⟨key', value', ending', hEnding', hKey', hLine', hMark', hValue'⟩ := line'
  obtain ⟨rfl, hValues⟩ := Prod.mk.inj hEntry
  have hTail := (List.cons.inj (List.append_cancel_left hText)).2
  cases value with
  | some value =>
      cases value' with
      | some value' =>
          obtain rfl : value = value' := hValues
          change 32 :: Text.toUtf8 value ++ ending ++ left = 32 :: Text.toUtf8 value ++ ending' ++ rest
            at hTail
          rw [List.append_assoc, List.append_assoc] at hTail
          obtain ⟨rfl, rfl⟩ := hEnding.append_inj hEnding' (List.append_cancel_left hTail)
          exact ⟨rfl, rfl⟩
      | none => exact absurd hTail.symm (hEnding'.append_ne_blank _ _)
  | none =>
      cases value' with
      | some value' => exact absurd hTail (hEnding.append_ne_blank _ _)
      | none =>
          obtain ⟨rfl, rfl⟩ := hEnding.append_inj hEnding' hTail
          exact ⟨rfl, rfl⟩

/-- A line is read as what it says only if it is read as it stands. -/
theorem isFound_of_header_eq_some {line : HeaderLine} {rest left : List UInt8}
    (h : header (line.text ++ rest) = some (line.entry, left)) : left = rest ∧ line.IsFound rest := by
  obtain ⟨found, hText, hEntry, hFound⟩ := exists_of_header_eq_some h
  obtain ⟨rfl, rfl⟩ := eq_of_entry_eq hEntry.symm hText
  exact ⟨rfl, hFound⟩

/-- The whole of the text is one line. -/
theorem isLine_text (line : HeaderLine) : IsLine line.text := by
  obtain ⟨key, value, ending, hEnding, hKey, hLine, hMark, hValue⟩ := line
  cases value with
  | some value =>
      have hFront : 10 ∉ Text.toUtf8 key ++ 58 :: 32 :: Text.toUtf8 value := by
        intro hMem
        obtain hMem | hMem := List.mem_append.mp hMem
        · exact hLine hMem
        · obtain hMem : 10 ∈ Text.toUtf8 value := by simpa using hMem
          exact (hValue value rfl 10 hMem).1 rfl
      have hText := hEnding.isLine_append hFront
      rw [List.append_assoc] at hText
      exact hText
  | none =>
      have hFront : 10 ∉ Text.toUtf8 key ++ [58] := by simpa using hLine
      have hText := hEnding.isLine_append hFront
      rw [List.append_assoc] at hText
      exact hText

/-- No header is a blank line. -/
theorem text_ne_blank (line : HeaderLine) (rest : LineRest) : line.text ≠ rest.text := by
  intro hText
  exact rest.colon_not_mem (hText ▸ List.mem_append_right _ List.mem_cons_self)

theorem text_ne_nil (line : HeaderLine) : line.text ≠ [] :=
  List.append_ne_nil_of_right_ne_nil _ (List.cons_ne_nil _ _)

theorem length_lt_of_header_eq_some {text left : List UInt8} {entry : String × String}
    (h : header text = some (entry, left)) : left.length < text.length := by
  obtain ⟨line, rfl, -⟩ := exists_of_header_eq_some h
  exact length_lt_of_ne_nil line.text_ne_nil left

/-- The lines of some headers, one after another. -/
def allText (lines : List HeaderLine) : List UInt8 :=
  lines.flatMap text

/-- Nothing preferred to any of the lines occurs in it or anywhere behind it. -/
def AllFound (lines : List HeaderLine) (rest : List UInt8) : Prop :=
  match lines with
  | [] => True
  | line :: lines => line.IsFound (allText lines ++ rest) ∧ AllFound lines rest

theorem allText_cons_append (line : HeaderLine) (lines : List HeaderLine) (rest : List UInt8) :
    allText (line :: lines) ++ rest = line.text ++ (allText lines ++ rest) := by
  rw [allText, List.flatMap_cons, List.append_assoc]
  rfl

/-- Lines that are all read as they stand are taken off up to something else. -/
theorem many_header {lines : List HeaderLine} {rest : List UInt8} (hLines : AllFound lines rest)
    (hRest : header rest = none) :
    many header (allText lines ++ rest) = some (lines.map entry, rest) := by
  refine many_of_takes (fun _ _ _ => length_lt_of_header_eq_some) ?_ hRest
  induction lines with
  | nil => exact .nil rest
  | cons line lines ih =>
      obtain ⟨hLine, hMore⟩ := hLines
      rw [allText_cons_append]
      exact .cons (header_text hLine) (ih hMore)

/-- Whatever was taken off as headers are lines that are all read as they stand. -/
theorem exists_of_many_header_eq_some {text left : List UInt8} {entries : List (String × String)}
    (h : many header text = some (entries, left)) :
    ∃ lines, text = allText lines ++ left ∧ lines.map entry = entries ∧ AllFound lines left := by
  have hTakes := takes_of_many h
  clear h
  induction hTakes with
  | nil text => exact ⟨[], rfl, rfl, trivial⟩
  | cons first more ih =>
      obtain ⟨line, rfl, rfl, hLine⟩ := exists_of_header_eq_some first
      obtain ⟨lines, rfl, rfl, hLines⟩ := ih
      exact ⟨line :: lines, (allText_cons_append ..).symm, rfl, hLine, hLines⟩

/-- Lines are taken off as what they say only if all of them are read as they stand. -/
theorem allFound_of_many_header_eq_some {lines : List HeaderLine} {rest left : List UInt8}
    (h : many header (allText lines ++ rest) = some (lines.map entry, left)) :
    left = rest ∧ AllFound lines rest := by
  have hTakes := takes_of_many h
  clear h
  induction lines with
  | nil =>
      cases hTakes
      exact ⟨rfl, trivial⟩
  | cons line lines ih =>
      rw [allText_cons_append] at hTakes
      cases hTakes with
      | cons first more =>
          obtain ⟨rfl, hLine⟩ := isFound_of_header_eq_some first
          obtain ⟨rfl, hLines⟩ := ih more
          exact ⟨rfl, hLine, hLines⟩

end HeaderLine

end Armor

end PhraseKey
