import PhraseKey.Armor.Scanner

/-!
What scanners do on a text of which the front is known. Each law says what is taken off, and what has to
follow for nothing more to be taken.
-/

namespace PhraseKey.Armor.Scanner

variable {α β : Type}

theorem bind_of_some {scanner : Scanner α} {text left : List UInt8} {value : α}
    (h : scanner text = some (value, left)) (next : α → Scanner β) :
    (scanner >>= next) text = next value left := by
  change (scanner text).bind _ = _
  rw [h]
  rfl

theorem bind_of_none {scanner : Scanner α} {text : List UInt8} (h : scanner text = none)
    (next : α → Scanner β) : (scanner >>= next) text = none := by
  change (scanner text).bind _ = _
  rw [h]
  rfl

/-- A sequence succeeds only if its first part does. -/
theorem exists_of_bind_eq_some {scanner : Scanner α} {next : α → Scanner β} {text : List UInt8}
    {result : β × List UInt8} (h : (scanner >>= next) text = some result) :
    ∃ value left, scanner text = some (value, left) ∧ next value left = some result := by
  rcases hFirst : scanner text with _ | ⟨value, left⟩
  · rw [bind_of_none hFirst] at h
    cases h
  · rw [bind_of_some hFirst] at h
    exact ⟨value, left, rfl, h⟩

/-- The first alternative that succeeds is taken. -/
theorem orElse_of_some {first : Scanner α} {text : List UInt8} {result : α × List UInt8}
    (h : first text = some result) (second : Scanner α) : (first <|> second) text = some result := by
  change (first text <|> second text) = _
  rw [h]
  rfl

theorem orElse_of_none {first : Scanner α} {text : List UInt8} (h : first text = none)
    (second : Scanner α) : (first <|> second) text = second text := by
  change (first text <|> second text) = _
  rw [h]
  rfl

theorem of_orElse_eq_some {first second : Scanner α} {text : List UInt8} {result : α × List UInt8}
    (h : (first <|> second) text = some result) :
    first text = some result ∨ second text = some result := by
  cases hFirst : first text with
  | none =>
      rw [orElse_of_none hFirst] at h
      exact .inr h
  | some found =>
      rw [orElse_of_some hFirst] at h
      exact .inl h

theorem optional_of_some {scanner : Scanner α} {text left : List UInt8} {value : α}
    (h : scanner text = some (value, left)) : optional scanner text = some (some value, left) := by
  refine orElse_of_some ?_ _
  rw [map_eq_pure_bind, bind_of_some h]
  rfl

theorem guard_of_pos {condition : Prop} [Decidable condition] (holds : condition)
    (text : List UInt8) : (guard condition : Scanner Unit) text = some ((), text) := by
  change (if condition then pure () else failure : Scanner Unit) text = _
  rw [if_pos holds]
  rfl

theorem guard_of_neg {condition : Prop} [Decidable condition] (fails : ¬ condition)
    (text : List UInt8) : (guard condition : Scanner Unit) text = none := by
  change (if condition then pure () else failure : Scanner Unit) text = _
  rw [if_neg fails]
  rfl

theorem of_guard_eq_some {condition : Prop} [Decidable condition] {text : List UInt8}
    {result : Unit × List UInt8} (h : (guard condition : Scanner Unit) text = some result) :
    condition ∧ result = ((), text) := by
  by_cases holds : condition
  · rw [guard_of_pos holds] at h
    exact ⟨holds, (Option.some.inj h).symm⟩
  · rw [guard_of_neg holds] at h
    cases h

theorem literal_append (expected rest : List UInt8) :
    literal expected (expected ++ rest) = some ((), rest) := by
  have hPrefix : expected.isPrefixOf (expected ++ rest) := by
    rw [List.isPrefixOf_iff_prefix]
    exact List.prefix_append expected rest
  rw [literal, if_pos hPrefix, List.drop_left]

/-- A span ends where the property does. -/
theorem span_append {p : UInt8 → Bool} {front rest : List UInt8} (hFront : ∀ octet ∈ front, p octet)
    (hRest : ∀ octet ∈ rest.head?, ¬ p octet) : span p (front ++ rest) = some (front, rest) := by
  have hTake : rest.takeWhile p = [] := by
    cases rest with
    | nil => rfl
    | cons first rest => exact List.takeWhile_cons_of_neg (hRest first rfl)
  have hDrop : rest.dropWhile p = rest := by
    cases rest with
    | nil => rfl
    | cons first rest => exact List.dropWhile_cons_of_neg (hRest first rfl)
  rw [span, List.takeWhile_append_of_pos hFront, List.dropWhile_append_of_pos hFront, hTake, hDrop,
    List.append_nil]

/-- What is found in front of a pattern is followed by it. -/
theorem eq_append_of_splitBefore? {pattern text front left : List UInt8}
    (h : splitBefore? pattern text = some (front, left)) : text = front ++ left ∧ pattern <+: left := by
  induction text generalizing front with
  | nil =>
      rw [splitBefore?] at h
      split at h
      · next hPattern =>
          cases h
          exact ⟨rfl, hPattern ▸ List.nil_prefix⟩
      · cases h
  | cons octet rest ih =>
      rw [splitBefore?] at h
      split at h
      · next hPrefix =>
          cases h
          exact ⟨rfl, List.isPrefixOf_iff_prefix.mp hPrefix⟩
      · obtain ⟨⟨skipped, found⟩, hFound, hEq⟩ := Option.map_eq_some_iff.mp h
        cases hEq
        obtain ⟨rfl, hPattern⟩ := ih hFound
        exact ⟨rfl, hPattern⟩

/-- The first occurrence of a pattern is found if none starts before it. -/
theorem before_append {pattern front rest : List UInt8} (hPattern : pattern <+: rest)
    (hFirst : ∀ back, back <:+ front → back ≠ [] → ¬ pattern <+: back ++ rest) :
    before pattern (front ++ rest) = some (front, rest) := by
  rw [before]
  induction front with
  | nil =>
      cases rest with
      | nil => rw [List.nil_append, splitBefore?, if_pos (List.prefix_nil.mp hPattern)]
      | cons octet rest =>
          rw [List.nil_append, splitBefore?, if_pos (List.isPrefixOf_iff_prefix.mpr hPattern)]
  | cons octet front ih =>
      have hHere : ¬ pattern.isPrefixOf (octet :: (front ++ rest)) := by
        rw [List.isPrefixOf_iff_prefix]
        exact hFirst (octet :: front) List.suffix_rfl (List.cons_ne_nil _ _)
      have hLater := ih fun back hBack => hFirst back (hBack.trans (List.suffix_cons octet front))
      rw [List.cons_append, splitBefore?, if_neg hHere, hLater]
      rfl

theorem repeatUpTo_of_none {scanner : Scanner α} {text : List UInt8} (h : scanner text = none)
    (limit : Nat) : repeatUpTo limit scanner text = some ([], text) := by
  cases limit with
  | zero => rfl
  | succ limit =>
      rw [repeatUpTo]
      dsimp only
      rw [h]

end PhraseKey.Armor.Scanner
