import PhraseKey.Armor.Read

/-!
Base64 read back. Groups of three octets are coded on their own, so an encoding can be cut between any
two of them, and no group starts with padding.
-/

namespace PhraseKey.Base64

/-- Six bits have a symbol, which stands for nothing else. -/
theorem value?_symbol {value : Nat} (hValue : value < 64) : value? (symbol value) = some value := by
  have hAll : ∀ six : Fin 64, value? (symbol six) = some six.val := by decide
  exact hAll ⟨value, hValue⟩

theorem symbol_ne_pad {value : Nat} (hValue : value < 64) : symbol value ≠ pad := by
  have hAll : ∀ six : Fin 64, symbol six ≠ pad := by decide
  exact hAll ⟨value, hValue⟩

theorem valueAt_symbol {value : Nat} (hValue : value < 64) (offset : Nat) :
    valueAt (symbol value) offset = .ok value := by
  rw [valueAt, value?_symbol hValue]

/-- Four values have the octets that they were taken from. -/
theorem groupOctets_split (a b c : UInt8) :
    groupOctets (a.toNat / 4) (a.toNat % 4 * 16 + b.toNat / 16) (b.toNat % 16 * 4 + c.toNat / 64)
      (c.toNat % 64) = [a, b, c] := by
  have hA := a.toNat_lt
  have hB := b.toNat_lt
  have hC := c.toNat_lt
  have hOctet : ∀ (value : Nat) (octet : UInt8), value % 256 = octet.toNat →
      UInt8.ofNat value = octet := by
    intro value octet hValue
    apply UInt8.toNat_inj.mp
    rw [UInt8.toNat_ofNat', hValue]
  rw [groupOctets, hOctet _ a (by omega), hOctet _ b (by omega), hOctet _ c (by omega)]

theorem tailValues_symbol {value : Nat} (hValue : value < 64) (start index : Nat)
    {rest : List UInt8} {values : List (UInt8 × Nat)}
    (h : tailValues start (index + 1) rest = .ok values) :
    tailValues start index (symbol value :: rest) = .ok ((symbol value, value) :: values) := by
  rw [tailValues, if_neg (symbol_ne_pad hValue), valueAt_symbol hValue, h]
  rfl

/-- A last group of one octet, two octets or three. -/
theorem decodeTail_one (start : Nat) (a : UInt8) : decodeTail start (encode [a]) = .ok [a] := by
  have hA := a.toNat_lt
  have hGroup := groupOctets_split a 0 0
  have hValues : tailValues start 0 (encode [a]) =
      .ok [(symbol (a.toNat / 4), a.toNat / 4), (symbol (a.toNat % 4 * 16), a.toNat % 4 * 16)] :=
    tailValues_symbol (by omega) start 0 (tailValues_symbol (by omega) start 1 rfl)
  have hZero : ¬ a.toNat % 4 * 16 % 16 ≠ 0 := by omega
  simp only [UInt8.toNat_zero, Nat.zero_div, Nat.zero_mod, Nat.add_zero, Nat.zero_mul] at hGroup
  rw [decodeTail, hValues]
  dsimp only [bind, Except.bind]
  rw [if_neg (by simp [encode]), if_neg hZero, hGroup]
  rfl

theorem decodeTail_two (start : Nat) (a b : UInt8) :
    decodeTail start (encode [a, b]) = .ok [a, b] := by
  have hA := a.toNat_lt
  have hB := b.toNat_lt
  have hGroup := groupOctets_split a b 0
  have hValues : tailValues start 0 (encode [a, b]) =
      .ok [(symbol (a.toNat / 4), a.toNat / 4),
        (symbol (a.toNat % 4 * 16 + b.toNat / 16), a.toNat % 4 * 16 + b.toNat / 16),
        (symbol (b.toNat % 16 * 4), b.toNat % 16 * 4)] :=
    tailValues_symbol (by omega) start 0 (tailValues_symbol (by omega) start 1
      (tailValues_symbol (by omega) start 2 rfl))
  have hZero : ¬ b.toNat % 16 * 4 % 4 ≠ 0 := by omega
  simp only [UInt8.toNat_zero, Nat.zero_div, Nat.zero_mod, Nat.add_zero] at hGroup
  rw [decodeTail, hValues]
  dsimp only [bind, Except.bind]
  rw [if_neg (by simp [encode]), if_neg hZero, hGroup]
  rfl

theorem decodeTail_three (start : Nat) (a b c : UInt8) :
    decodeTail start (encode [a, b, c]) = .ok [a, b, c] := by
  have hA := a.toNat_lt
  have hB := b.toNat_lt
  have hC := c.toNat_lt
  have hValues : tailValues start 0 (encode [a, b, c]) =
      .ok [(symbol (a.toNat / 4), a.toNat / 4),
        (symbol (a.toNat % 4 * 16 + b.toNat / 16), a.toNat % 4 * 16 + b.toNat / 16),
        (symbol (b.toNat % 16 * 4 + c.toNat / 64), b.toNat % 16 * 4 + c.toNat / 64),
        (symbol (c.toNat % 64), c.toNat % 64)] :=
    tailValues_symbol (by omega) start 0 (tailValues_symbol (by omega) start 1
      (tailValues_symbol (by omega) start 2 (tailValues_symbol (by omega) start 3 rfl)))
  rw [decodeTail, hValues]
  dsimp only [bind, Except.bind]
  rw [groupOctets_split]

/-- Data have symbols, and the first of them is not padding. -/
theorem exists_encode_cons {data : List UInt8} (hData : data ≠ []) :
    ∃ value rest, value < 64 ∧ encode data = symbol value :: rest := by
  obtain ⟨first, more, rfl⟩ := List.exists_cons_of_ne_nil hData
  have hFirst := first.toNat_lt
  refine ⟨first.toNat / 4, (encode (first :: more)).tail, by omega, ?_⟩
  match more with
  | [] => rfl
  | [_] => rfl
  | _ :: _ :: _ => rfl

/-- Every encoding is decoded to what it was made from. -/
theorem decodeFrom_encode (start : Nat) (data : List UInt8) :
    decodeFrom start (encode data) = .ok data := by
  induction data using encode.induct generalizing start with
  | case1 => rfl
  | case2 a => exact decodeTail_one start a
  | case3 a b => exact decodeTail_two start a b
  | case4 a b c rest ih =>
      cases rest with
      | nil => exact decodeTail_three start a b c
      | cons d rest =>
          have hA := a.toNat_lt
          have hB := b.toNat_lt
          have hC := c.toNat_lt
          have hMore := ih (start + 4)
          obtain ⟨_, more, -, hEncode⟩ := exists_encode_cons (List.cons_ne_nil d rest)
          rw [hEncode] at hMore
          rw [encode, hEncode, decodeFrom, valueAt_symbol (by omega), valueAt_symbol (by omega),
            valueAt_symbol (by omega), valueAt_symbol (by omega), hMore]
          change Except.ok (groupOctets _ _ _ _ ++ _) = _
          rw [groupOctets_split]
          rfl

theorem decode_encode (data : List UInt8) : decode (encode data) = .ok data :=
  decodeFrom_encode 0 data

example : decode [122, 81, 78, 104, 89, 109, 77, 61] = .ok [0xCD, 3, 97, 98, 99] := rfl

/-- Whole groups are coded apart from what follows them. -/
theorem encode_append {front : List UInt8} (hGroups : front.length % 3 = 0) (back : List UInt8) :
    encode (front ++ back) = encode front ++ encode back := by
  induction front using encode.induct with
  | case1 => rfl
  | case2 a => cases hGroups
  | case3 a b => cases hGroups
  | case4 a b c rest ih =>
      rw [List.length_cons, List.length_cons, List.length_cons] at hGroups
      have hRest := ih (by omega)
      simp only [List.cons_append, encode, hRest]

/-- Four symbols for every three octets, of which the last may be missing. -/
theorem length_encode (data : List UInt8) : (encode data).length = (data.length + 2) / 3 * 4 := by
  induction data using encode.induct with
  | case1 => rfl
  | case2 a => simp [encode]
  | case3 a b => simp [encode]
  | case4 a b c rest ih =>
      simp only [encode, List.length_cons, ih]
      omega

/-- Sixteen groups make up a line. -/
theorem take_encode (data : List UInt8) : (encode data).take 64 = encode (data.take 48) := by
  by_cases hLong : 48 ≤ data.length
  · have hLength : (data.take 48).length = 48 := List.length_take_of_le hLong
    have hFront : (encode (data.take 48)).length = 64 := by rw [length_encode, hLength]
    rw [← List.take_append_drop 48 data, encode_append (by rw [hLength]), List.take_left' hFront,
      List.take_append_drop]
  · have hLength := length_encode data
    rw [List.take_of_length_le (by omega), List.take_of_length_le (by omega)]

theorem drop_encode (data : List UInt8) : (encode data).drop 64 = encode (data.drop 48) := by
  by_cases hLong : 48 ≤ data.length
  · have hLength : (data.take 48).length = 48 := List.length_take_of_le hLong
    have hFront : (encode (data.take 48)).length = 64 := by rw [length_encode, hLength]
    rw [← List.take_append_drop 48 data, encode_append (by rw [hLength]), List.drop_left' hFront,
      List.take_append_drop]
  · have hLength := length_encode data
    rw [List.drop_of_length_le (by omega), List.drop_of_length_le (by omega), encode]

/-- The lines of an encoding are encodings themselves. -/
theorem chunks_encode (count : Nat) (data : List UInt8) :
    chunks 64 count (encode data) = (chunks 48 count data).map encode := by
  induction count generalizing data with
  | zero => rfl
  | succ count ih => rw [chunks, chunks, List.map_cons, take_encode, drop_encode, ih]

theorem isBase64_symbol {value : Nat} (hValue : value < 64) : Armor.isBase64 (symbol value) := by
  rw [Armor.isBase64, value?_symbol hValue]
  rfl

/-- An encoding consists of the alphabet and padding. -/
theorem isBase64_of_mem_encode {data : List UInt8} : ∀ octet ∈ encode data, Armor.isBase64 octet := by
  induction data using encode.induct with
  | case1 => exact List.forall_mem_nil _
  | case2 a =>
      have hA := a.toNat_lt
      simp only [encode, List.forall_mem_cons]
      exact ⟨isBase64_symbol (by omega), isBase64_symbol (by omega), rfl, rfl, List.forall_mem_nil _⟩
  | case3 a b =>
      have hA := a.toNat_lt
      have hB := b.toNat_lt
      simp only [encode, List.forall_mem_cons]
      exact ⟨isBase64_symbol (by omega), isBase64_symbol (by omega), isBase64_symbol (by omega), rfl,
        List.forall_mem_nil _⟩
  | case4 a b c rest ih =>
      have hA := a.toNat_lt
      have hB := b.toNat_lt
      have hC := c.toNat_lt
      simp only [encode, List.forall_mem_cons]
      exact ⟨isBase64_symbol (by omega), isBase64_symbol (by omega), isBase64_symbol (by omega),
        isBase64_symbol (by omega), ih⟩

end PhraseKey.Base64
