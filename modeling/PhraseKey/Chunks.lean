/-!
Lists cut into pieces of one size.
-/

namespace PhraseKey

variable {α : Type}

/-- The first `count` pieces of `size` elements. The last of them may be shorter. -/
def chunks (size : Nat) : Nat → List α → List (List α)
  | 0, _ => []
  | count + 1, elements => elements.take size :: chunks size count (elements.drop size)

theorem length_chunks (size count : Nat) (elements : List α) :
    (chunks size count elements).length = count := by
  induction count generalizing elements with
  | zero => rfl
  | succ count ih => simp [chunks, ih]

/-- Nothing is lost if there are enough pieces. -/
theorem flatten_chunks (size count : Nat) (elements : List α)
    (enough : elements.length ≤ size * count) : (chunks size count elements).flatten = elements := by
  induction count generalizing elements with
  | zero =>
    have : elements = [] := by simpa using enough
    simp [chunks, this]
  | succ count ih =>
    have left : (elements.drop size).length ≤ size * count := by
      rw [List.length_drop]
      rw [Nat.mul_succ] at enough
      omega
    simp [chunks, ih _ left]

theorem length_le_of_mem_chunks {size count : Nat} {elements piece : List α}
    (h : piece ∈ chunks size count elements) : piece.length ≤ size := by
  induction count generalizing elements with
  | zero => cases h
  | succ count ih =>
    rcases List.mem_cons.mp h with rfl | h
    · exact List.length_take_le size elements
    · exact ih h

/-- No piece is empty if there are no more of them than it takes. -/
theorem ne_nil_of_mem_chunks {size count : Nat} {elements piece : List α} (positive : 0 < size)
    (few : size * count < elements.length + size) (h : piece ∈ chunks size count elements) :
    piece ≠ [] := by
  induction count generalizing elements with
  | zero => cases h
  | succ count ih =>
    rw [Nat.mul_succ] at few
    rcases List.mem_cons.mp h with rfl | h
    · have : 0 < (elements.take size).length := by
        rw [List.length_take]
        omega
      exact List.length_pos_iff.mp this
    · have left : size * count < (elements.drop size).length + size := by
        rw [List.length_drop]
        omega
      exact ih left h

end PhraseKey
