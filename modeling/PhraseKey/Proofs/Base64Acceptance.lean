import PhraseKey.Proofs.Base64Coding

/-!
Base64 that was accepted. Padding is mandatory and no bits are left over, so a text decodes only if it
is the encoding of what it decodes to, and every octet string is decoded from one text only.
-/

namespace PhraseKey

namespace Base64

open Outcome (exists_of_bind_eq_ok)

/-- An octet of the alphabet is the symbol of its six bits. -/
theorem symbol_of_value? {octet : UInt8} {value : Nat} (h : value? octet = some value) :
    value < 64 ∧ symbol value = octet := by
  have hAll : ∀ b : BitVec 8, (value? ⟨b⟩).all fun v => v < 64 && symbol v == ⟨b⟩ := by decide
  have hOctet := hAll octet.toBitVec
  change (value? octet).all _ = true at hOctet
  rw [h] at hOctet
  simpa using hOctet

theorem of_valueAt_eq_ok {octet : UInt8} {offset value : Nat} (h : valueAt octet offset = .ok value) :
    value < 64 ∧ symbol value = octet := by
  rw [valueAt] at h
  cases hValue : value? octet with
  | none => simp [hValue] at h
  | some found =>
      simp only [hValue, Except.ok.injEq] at h
      subst h
      exact symbol_of_value? hValue

/-- Four values are the symbols of the octets that are made of them. -/
theorem encode_groupOctets {a b c d : Nat} (hA : a < 64) (hB : b < 64) (hC : c < 64) (hD : d < 64)
    (rest : List UInt8) :
    encode (groupOctets a b c d ++ rest) =
      symbol a :: symbol b :: symbol c :: symbol d :: encode rest := by
  simp only [groupOctets, List.cons_append, List.nil_append, encode, UInt8.toNat_ofNat',
    Nat.reducePow, List.cons.injEq, and_true]
  refine ⟨congrArg symbol ?_, congrArg symbol ?_, congrArg symbol ?_, congrArg symbol ?_⟩ <;> omega

/-- The same for two values without bits left over, which make up one octet, -/
theorem encode_groupOctets_one {a b : Nat} (hA : a < 64) (hB : b < 64) (hLast : b % 16 = 0) :
    encode ((groupOctets a b 0 0).take 1) = [symbol a, symbol b, pad, pad] := by
  simp only [groupOctets, List.take_succ_cons, List.take_zero, encode, UInt8.toNat_ofNat',
    Nat.reducePow, List.cons.injEq, and_true]
  refine ⟨congrArg symbol ?_, congrArg symbol ?_⟩ <;> omega

/-- and for three, which make up two. -/
theorem encode_groupOctets_two {a b c : Nat} (hA : a < 64) (hB : b < 64) (hC : c < 64)
    (hLast : c % 4 = 0) :
    encode ((groupOctets a b c 0).take 2) = [symbol a, symbol b, symbol c, pad] := by
  simp only [groupOctets, List.take_succ_cons, List.take_zero, encode, UInt8.toNat_ofNat',
    Nat.reducePow, List.cons.injEq, and_true]
  refine ⟨congrArg symbol ?_, congrArg symbol ?_, congrArg symbol ?_⟩ <;> omega

/-- Symbols with their values. -/
def AreSymbols (values : List (UInt8 × Nat)) : Prop :=
  ∀ entry ∈ values, entry.2 < 64 ∧ symbol entry.2 = entry.1

/-- A last group consists of its symbols and of padding behind them. -/
theorem of_tailValues_eq_ok {start index : Nat} {tail : List UInt8} {values : List (UInt8 × Nat)}
    (h : tailValues start index tail = .ok values) :
    AreSymbols values ∧ ∃ count, tail = values.map Prod.fst ++ List.replicate count pad := by
  induction tail generalizing index values with
  | nil =>
      cases h
      exact ⟨by simp [AreSymbols], 0, rfl⟩
  | cons octet rest ih =>
      rw [tailValues] at h
      by_cases hPad : octet = pad
      · rw [if_pos hPad] at h
        by_cases hIndex : index < 2
        · simp [hIndex] at h
        · rw [if_neg hIndex] at h
          by_cases hRest : rest.all (· == pad)
          · rw [if_pos hRest] at h
            cases h
            have hPadding : rest = List.replicate rest.length pad := by
              rw [List.eq_replicate_iff]
              exact ⟨rfl, by simpa using hRest⟩
            refine ⟨by simp [AreSymbols], rest.length + 1, ?_⟩
            rw [hPad, List.replicate_succ, ← hPadding]
            rfl
          · simp [hRest] at h
      · rw [if_neg hPad] at h
        obtain ⟨value, hValue, h⟩ := exists_of_bind_eq_ok h
        obtain ⟨more, hMore, h⟩ := exists_of_bind_eq_ok h
        cases h
        obtain ⟨hSymbols, count, hRest⟩ := ih hMore
        refine ⟨?_, count, ?_⟩
        · simp only [AreSymbols, List.forall_mem_cons]
          exact ⟨of_valueAt_eq_ok hValue, hSymbols⟩
        · rw [hRest]
          rfl

/-- A last group that was accepted is an encoding. -/
theorem encode_of_decodeTail {start : Nat} {tail data : List UInt8} (hLength : tail.length ≤ 4)
    (h : decodeTail start tail = .ok data) : encode data = tail := by
  rw [decodeTail] at h
  obtain ⟨values, hValues, h⟩ := exists_of_bind_eq_ok h
  obtain ⟨hSymbols, count, hTail⟩ := of_tailValues_eq_ok hValues
  have hCount := congrArg List.length hTail
  simp only [List.length_append, List.length_map, List.length_replicate] at hCount
  rcases values with _ | ⟨⟨x, a⟩, _ | ⟨⟨y, b⟩, _ | ⟨⟨z, c⟩, _ | ⟨⟨w, d⟩, more⟩⟩⟩⟩
  · by_cases hNil : tail = []
    · simp only [hNil, if_true, Except.ok.injEq] at h
      rw [hNil, ← h, encode]
    · simp [hNil] at h
  · simp at h
  · simp only [AreSymbols, List.forall_mem_cons] at hSymbols
    obtain ⟨⟨hA, rfl⟩, ⟨hB, rfl⟩, -⟩ := hSymbols
    by_cases hFour : tail.length = 4
    · by_cases hLast : b % 16 = 0
      · simp only [hFour, hLast, ne_eq, not_true_eq_false, if_false, Except.ok.injEq] at h
        obtain rfl : count = 2 := by
          simp only [List.length_cons, List.length_nil] at hCount
          omega
        rw [← h, encode_groupOctets_one hA hB hLast, hTail]
        rfl
      · simp [hFour, hLast] at h
    · simp [hFour] at h
  · simp only [AreSymbols, List.forall_mem_cons] at hSymbols
    obtain ⟨⟨hA, rfl⟩, ⟨hB, rfl⟩, ⟨hC, rfl⟩, -⟩ := hSymbols
    by_cases hFour : tail.length = 4
    · by_cases hLast : c % 4 = 0
      · simp only [hFour, hLast, ne_eq, not_true_eq_false, if_false, Except.ok.injEq] at h
        obtain rfl : count = 1 := by
          simp only [List.length_cons, List.length_nil] at hCount
          omega
        rw [← h, encode_groupOctets_two hA hB hC hLast, hTail]
        rfl
      · simp [hFour, hLast] at h
    · simp [hFour] at h
  · simp only [AreSymbols, List.forall_mem_cons] at hSymbols
    obtain ⟨⟨hA, rfl⟩, ⟨hB, rfl⟩, ⟨hC, rfl⟩, ⟨hD, rfl⟩, -⟩ := hSymbols
    simp only [List.length_cons] at hCount
    -- There is no room for anything behind four symbols.
    obtain rfl : more = [] := List.length_eq_zero_iff.mp (by omega)
    obtain rfl : count = 0 := by omega
    cases h
    have hGroup := encode_groupOctets hA hB hC hD []
    rw [List.append_nil] at hGroup
    rw [hGroup, hTail]
    rfl

/-- Whatever is accepted is an encoding, group by group. -/
theorem encode_of_decodeFrom {start : Nat} {text data : List UInt8}
    (h : decodeFrom start text = .ok data) : encode data = text := by
  induction start, text using decodeFrom.induct generalizing data with
  | case1 start a b c d e rest ih =>
      rw [decodeFrom] at h
      obtain ⟨first, hFirst, h⟩ := exists_of_bind_eq_ok h
      obtain ⟨second, hSecond, h⟩ := exists_of_bind_eq_ok h
      obtain ⟨third, hThird, h⟩ := exists_of_bind_eq_ok h
      obtain ⟨fourth, hFourth, h⟩ := exists_of_bind_eq_ok h
      obtain ⟨octets, hOctets, h⟩ := exists_of_bind_eq_ok h
      cases h
      obtain ⟨hA, rfl⟩ := of_valueAt_eq_ok hFirst
      obtain ⟨hB, rfl⟩ := of_valueAt_eq_ok hSecond
      obtain ⟨hC, rfl⟩ := of_valueAt_eq_ok hThird
      obtain ⟨hD, rfl⟩ := of_valueAt_eq_ok hFourth
      rw [encode_groupOctets hA hB hC hD, ih hOctets]
  | case2 start tail hShort =>
      have hLength : tail.length ≤ 4 := by
        rcases tail with _ | ⟨a, _ | ⟨b, _ | ⟨c, _ | ⟨d, _ | ⟨e, rest⟩⟩⟩⟩⟩
        case cons.cons.cons.cons.cons => exact absurd rfl (hShort a b c d e rest)
        all_goals simp
      rw [decodeFrom] at h
      · exact encode_of_decodeTail hLength h
      · exact hShort

/-- Base64 is canonical: an octet string is decoded from its encoding, and from nothing else. -/
theorem decode_eq_ok_iff {text data : List UInt8} : decode text = .ok data ↔ text = encode data := by
  constructor
  · intro h
    exact (encode_of_decodeFrom h).symm
  · rintro rfl
    exact decode_encode data

theorem encode_injective {data data' : List UInt8} (h : encode data = encode data') : data = data' := by
  have hDecode := decode_encode data
  rw [h, decode_encode] at hDecode
  exact (Except.ok.inj hDecode).symm

end Base64

end PhraseKey
