import Mathlib.Data.List.Infix
import PhraseKey.Proofs.Scanning

/-!
Texts that scanners accept. What a scanner took off stood at the front of the text, a pattern is found
where it occurs first, and repeating a scanner takes off what it accepts each time.
-/

namespace PhraseKey.Armor.Scanner

variable {α : Type}

theorem eq_append_of_literal {expected text left : List UInt8} {result : Unit}
    (h : literal expected text = some (result, left)) : text = expected ++ left := by
  rw [literal] at h
  split at h
  · next hPrefix =>
      obtain ⟨rest, rfl⟩ := List.isPrefixOf_iff_prefix.mp hPrefix
      rw [List.drop_left] at h
      cases h
      rfl
  · cases h

/-- What was spanned has the property. -/
theorem of_span_eq_some {p : UInt8 → Bool} {text front left : List UInt8}
    (h : span p text = some (front, left)) : text = front ++ left ∧ ∀ octet ∈ front, p octet := by
  cases h
  exact ⟨List.takeWhile_append_dropWhile.symm, List.all_eq_true.mp List.all_takeWhile⟩

/-- A pattern is not found only if it does not occur. -/
theorem before_eq_none_iff {pattern text : List UInt8} :
    before pattern text = none ↔ ¬ pattern <:+: text := by
  rw [before]
  induction text with
  | nil =>
      rw [splitBefore?, List.infix_nil]
      split
      · next hPattern => simp [hPattern]
      · next hPattern => simp [hPattern]
  | cons octet rest ih =>
      rw [splitBefore?, List.infix_cons_iff, ← List.isPrefixOf_iff_prefix]
      split
      · next hHere => simp [hHere]
      · next hHere => rw [Option.map_eq_none_iff, ih, or_iff_right hHere]

/-- Where a pattern is found it occurs first. -/
theorem not_prefix_of_before {pattern text front left : List UInt8}
    (h : before pattern text = some (front, left)) :
    ∀ back, back <:+ front → back ≠ [] → ¬ pattern <+: back ++ left := by
  rw [before] at h
  induction text generalizing front with
  | nil =>
      rw [splitBefore?] at h
      split at h
      · cases h
        exact fun back hBack hNonempty _ => hNonempty (List.suffix_nil.mp hBack)
      · cases h
  | cons octet rest ih =>
      rw [splitBefore?] at h
      split at h
      · cases h
        exact fun back hBack hNonempty _ => hNonempty (List.suffix_nil.mp hBack)
      · next hHere =>
          obtain ⟨⟨skipped, found⟩, hFound, hEq⟩ := Option.map_eq_some_iff.mp h
          cases hEq
          intro back hBack hNonempty
          obtain rfl | hLater := List.suffix_cons_iff.mp hBack
          · rw [List.cons_append, ← (eq_append_of_splitBefore? hFound).1,
              ← List.isPrefixOf_iff_prefix]
            exact hHere
          · exact ih hFound back hLater hNonempty

/-- A pattern does not occur in what is in front of it. -/
theorem not_infix_of_before {pattern text front left : List UInt8} (hPattern : pattern ≠ [])
    (h : before pattern text = some (front, left)) : ¬ pattern <:+: front := by
  rintro ⟨earlier, later, rfl⟩
  refine not_prefix_of_before h (pattern ++ later) ?_ (List.append_ne_nil_of_left_ne_nil hPattern _) ?_
  · rw [List.append_assoc]
    exact List.suffix_append _ _
  · rw [List.append_assoc]
    exact List.prefix_append _ _

theorem of_optional_eq_some {scanner : Scanner α} {text left : List UInt8} {value? : Option α}
    (h : optional scanner text = some (value?, left)) :
    (∃ value, value? = some value ∧ scanner text = some (value, left)) ∨
      value? = none ∧ left = text := by
  obtain hTaken | hNone := of_orElse_eq_some h
  · rw [map_eq_pure_bind] at hTaken
    obtain ⟨value, _, hValue, hReturn⟩ := exists_of_bind_eq_some hTaken
    cases hReturn
    exact .inl ⟨value, rfl, hValue⟩
  · cases hNone
    exact .inr ⟨rfl, rfl⟩

theorem optional_of_none {scanner : Scanner α} {text : List UInt8} (h : scanner text = none) :
    optional scanner text = some (none, text) := by
  refine (orElse_of_none ?_ _).trans rfl
  rw [map_eq_pure_bind, bind_of_none h]

/-- The scanner takes these values off one after another, down to what is left. -/
inductive Takes (scanner : Scanner α) : List UInt8 → List α → List UInt8 → Prop where
  | nil (text : List UInt8) : Takes scanner text [] text
  | cons {text left rest : List UInt8} {value : α} {values : List α}
      (first : scanner text = some (value, left)) (more : Takes scanner left values rest) :
      Takes scanner text (value :: values) rest

theorem takes_of_many {scanner : Scanner α} {text left : List UInt8} {values : List α}
    (h : many scanner text = some (values, left)) : Takes scanner text values left := by
  rw [many] at h
  generalize text.length = limit at h
  induction limit generalizing text values with
  | zero =>
      cases h
      exact .nil _
  | succ limit ih =>
      rw [repeatUpTo] at h
      cases hFirst : scanner text with
      | none =>
          dsimp only at h
          rw [hFirst] at h
          cases h
          exact .nil _
      | some found =>
          dsimp only at h
          rw [hFirst] at h
          obtain ⟨⟨more, rest⟩, hMore, hEq⟩ := Option.map_eq_some_iff.mp h
          cases hEq
          exact .cons hFirst (ih hMore)

theorem length_lt_of_ne_nil {front : List UInt8} (hFront : front ≠ []) (left : List UInt8) :
    left.length < (front ++ left).length := by
  have hLength := List.length_pos_iff.mpr hFront
  rw [List.length_append]
  omega

/-- A scanner that takes something off each time is repeated until it fails. -/
theorem many_of_takes {scanner : Scanner α} {text left : List UInt8} {values : List α}
    (hShorter : ∀ text value left, scanner text = some (value, left) → left.length < text.length)
    (h : Takes scanner text values left) (hLeft : scanner left = none) :
    many scanner text = some (values, left) := by
  have hLimit : ∀ limit, text.length ≤ limit → repeatUpTo limit scanner text = some (values, left) := by
    induction h with
    | nil text => exact fun limit _ => repeatUpTo_of_none hLeft limit
    | @cons text middle left value values first more ih =>
        intro limit hLimit
        have hLess := hShorter text value middle first
        obtain ⟨limit, rfl⟩ : ∃ n, limit = n + 1 := ⟨limit - 1, by omega⟩
        rw [repeatUpTo]
        dsimp only
        rw [first]
        dsimp only
        rw [ih hLeft limit (by omega)]
        rfl
  exact hLimit text.length (Nat.le_refl _)

variable {β : Type} {form : β → List UInt8} {value : β → α}

/-- What stands for each of some items is taken off if each of them is. -/
theorem takes_flatMap {scanner : Scanner α} {items : List β} (rest : List UInt8)
    (hItem : ∀ item ∈ items, ∀ back, scanner (form item ++ back) = some (value item, back)) :
    Takes scanner (items.flatMap form ++ rest) (items.map value) rest := by
  induction items with
  | nil => exact .nil rest
  | cons item items ih =>
      have hMore := ih fun other hOther => hItem other (List.mem_cons_of_mem _ hOther)
      rw [List.flatMap_cons, List.append_assoc]
      exact .cons (hItem item List.mem_cons_self _) hMore

/-- What was taken off stands for items if each part of it does. -/
theorem Takes.exists_eq_flatMap {scanner : Scanner α} {p : β → Prop} {text left : List UInt8}
    {values : List α} (h : Takes scanner text values left)
    (hItem : ∀ text left found, scanner text = some (found, left) →
      ∃ item, text = form item ++ left ∧ value item = found ∧ p item) :
    ∃ items : List β, text = items.flatMap form ++ left ∧ items.map value = values ∧ ∀ item ∈ items, p item := by
  induction h with
  | nil text => exact ⟨[], rfl, rfl, List.forall_mem_nil _⟩
  | cons first more ih =>
      obtain ⟨item, rfl, rfl, hFirst⟩ := hItem _ _ _ first
      obtain ⟨items, rfl, rfl, hMore⟩ := ih
      refine ⟨item :: items, ?_, rfl, List.forall_mem_cons.mpr ⟨hFirst, hMore⟩⟩
      rw [List.flatMap_cons, List.append_assoc]

end PhraseKey.Armor.Scanner
