import PhraseKey.Parser
import PhraseKey.Proofs.OctetNumbers

/-!
Fields that are read back from the octets they were written in. A parser reads a field if it takes
exactly the octets of the field off the front, whatever stands behind them. No written form of such a
field is the beginning of another, so fields can be concatenated without separators.
-/

namespace PhraseKey.Parser

variable {α β : Type}

/-- The parser takes exactly these octets off the front and yields the value, whatever is behind
them. -/
def Reads (parser : Parser α) (octets : List UInt8) (value : α) : Prop :=
  ∀ rest, parser.parse (octets ++ rest) = (.ok value, rest)

/-- A field that is all there is leaves nothing. -/
theorem Reads.parse_eq {parser : Parser α} {octets : List UInt8} {value : α}
    (h : parser.Reads octets value) : parser.parse octets = (.ok value, []) := by
  have hParse := h []
  rwa [List.append_nil] at hParse

/-- Two written forms at the front of one octet string are of the same value, and end at the same
place. -/
theorem Reads.determines {parser : Parser α} {front front' rest rest' : List UInt8}
    {value value' : α} (h : parser.Reads front value) (h' : parser.Reads front' value')
    (hEq : front ++ rest = front' ++ rest') : value = value' ∧ rest = rest' := by
  have hParse := h rest
  rw [hEq, h' rest'] at hParse
  simp only [Prod.mk.injEq, Except.ok.injEq] at hParse
  exact ⟨hParse.1.symm, hParse.2.symm⟩

theorem reads_pure (value : α) : (pure value : Parser α).Reads [] value :=
  fun _ => rfl

/-- Fields that follow each other are read one after another. -/
theorem Reads.bind {first : Parser α} {next : α → Parser β} {front back : List UInt8} {value : α}
    {result : β} (hFirst : first.Reads front value) (hNext : (next value).Reads back result) :
    (first >>= next).Reads (front ++ back) result := by
  intro rest
  rw [List.append_assoc, parse_bind_of_ok (hFirst (back ++ rest)), hNext]

/-- The last field, behind which nothing more is taken off. -/
theorem Reads.last {first : Parser α} {next : α → Parser β} {octets : List UInt8} {value : α}
    {result : β} (hFirst : first.Reads octets value) (hNext : (next value).Reads [] result) :
    (first >>= next).Reads octets result := by
  have hRead := hFirst.bind hNext
  rwa [List.append_nil] at hRead

theorem Reads.map {parser : Parser α} {octets : List UInt8} {value : α}
    (h : parser.Reads octets value) (f : α → β) :
    (parser >>= fun value => pure (f value)).Reads octets (f value) :=
  h.last (reads_pure (f value))

/-- What follows only depends on what came before it through the outcome. -/
theorem parse_bind_congr {first first' : Parser α} {octets octets' : List UInt8}
    (h : first.parse octets = first'.parse octets') (next : α → Parser β) :
    (first >>= next).parse octets = (first' >>= next).parse octets' := by
  rcases hParse : first'.parse octets' with ⟨error | value, left⟩
  · rw [parse_bind_of_error hParse, parse_bind_of_error (h.trans hParse)]
  · rw [parse_bind_of_ok hParse, parse_bind_of_ok (h.trans hParse)]

theorem ensure_eq_pure {condition : Prop} [Decidable condition] (holds : condition)
    (error : Error) : ensure condition error = pure () :=
  if_pos holds

/-- A condition that holds takes nothing off. -/
theorem Reads.of_ensure {condition : Prop} [Decidable condition] {error : Error}
    {next : Unit → Parser β} {octets : List UInt8} {result : β} (holds : condition)
    (hNext : (next ()).Reads octets result) :
    (ensure condition error >>= next).Reads octets result := by
  rwa [ensure_eq_pure holds, pure_bind]

/-- What is given or fails, without taking anything off. -/
def ofOption (value? : Option α) (error : Error) : Parser α :=
  match value? with
  | some value => pure value
  | none => fail error

theorem reads_ofOption {value? : Option α} {value : α} (h : value? = some value) (error : Error) :
    (ofOption value? error).Reads [] value := by
  subst h
  exact reads_pure value

theorem reads_split (field : String) (item : Item) (octets : Octets item.length) :
    (split field item).Reads octets.toList octets := by
  intro rest
  have hLength := octets.length_toList
  rw [parse_split_of_le (by rw [List.length_append]; omega)]
  congr 1
  · congr 1
    ext1
    exact List.take_left' hLength
  · exact List.drop_left' hLength

/-- An item of fixed length, and what is made of its octets. -/
theorem reads_split_map (field : String) (item : Item) {octets : List UInt8}
    (length : octets.length = item.length) (value : Octets item.length → α) :
    (split field item >>= fun octets => pure (value octets)).Reads octets
      (value ⟨octets, length⟩) := by
  intro rest
  exact (reads_split field item ⟨octets, length⟩).map value rest

theorem reads_u8 (field : String) (octet : UInt8) : (u8 field).Reads [octet] octet := by
  have hRead := reads_split_map field .u8 (show [octet].length = 1 from rfl)
    fun octets => UInt8.ofNat (ofBigEndian octets.toList)
  have hValue : UInt8.ofNat (ofBigEndian [octet]) = octet := by
    simp [ofBigEndian, ofLittleEndian]
  rwa [hValue] at hRead

/-- Only the lowest 16 bits of a number are written, and those are read. -/
theorem reads_u16 (field : String) (value : Nat) :
    (u16 field).Reads (bigEndian 2 value) (UInt16.ofNat value) := by
  have hRead := reads_split_map field .u16 (length_bigEndian 2 value)
    fun octets => UInt16.ofNat (ofBigEndian octets.toList)
  have hValue : UInt16.ofNat (ofBigEndian (bigEndian 2 value)) = UInt16.ofNat value := by
    rw [ofBigEndian_bigEndian]
    exact UInt16.toNat_inj.mp (by simp)
  rwa [hValue] at hRead

theorem reads_u32 (field : String) (value : UInt32) :
    (u32 field).Reads (bigEndian 4 value.toNat) value := by
  have hRead := reads_split_map field .u32 (length_bigEndian 4 value.toNat)
    fun octets => UInt32.ofNat (ofBigEndian octets.toList)
  have hValue : UInt32.ofNat (ofBigEndian (bigEndian 4 value.toNat)) = value := by
    rw [ofBigEndian_bigEndian]
    exact UInt32.toNat_inj.mp (by simp)
  rwa [hValue] at hRead

theorem reads_array (field : String) {n : Nat} (octets : Octets n) :
    (array field n).Reads octets.toList octets :=
  reads_split field (.array n) octets

theorem reads_take (field : String) {n : Nat} {octets : List UInt8} (length : octets.length = n) :
    (take field n).Reads octets octets :=
  reads_split_map field (.take n) length fun octets => octets.toList

theorem reads_tag (field : String) (expected : List UInt8) :
    (tag field expected).Reads expected () := by
  intro rest
  rw [tag, parse_bind_of_ok (reads_split field (.tag expected) ⟨expected, rfl⟩ rest)]
  simp [ensure]

/-- The parser takes exactly these octets off the front and then fails, whatever is behind them. -/
def Refuses (parser : Parser α) (octets : List UInt8) (error : Error) : Prop :=
  ∀ rest, parser.parse (octets ++ rest) = (.error error, rest)

/-- What is refused behind a field is refused with it. -/
theorem Reads.bind_refuses {first : Parser α} {next : α → Parser β} {front back : List UInt8}
    {value : α} {error : Error} (hFirst : first.Reads front value)
    (hNext : (next value).Refuses back error) : (first >>= next).Refuses (front ++ back) error := by
  intro rest
  rw [List.append_assoc, parse_bind_of_ok (hFirst (back ++ rest)), hNext]

/-- A condition that does not hold takes nothing off either. -/
theorem refuses_of_ensure {condition : Prop} [Decidable condition] {error : Error}
    (fails : ¬ condition) (next : Unit → Parser β) :
    (ensure condition error >>= next).Refuses [] error := by
  rw [ensure, if_neg fails]
  exact fun _ => rfl

/-- A parser that must leave nothing, on a field that is all there is. -/
theorem Reads.parse_finish {parser : Parser α} {octets : List UInt8} {value : α}
    (h : parser.Reads octets value) (error : Error) :
    (do let value ← parser; finish error; return value : Parser α).parse octets =
      (.ok value, []) := by
  rw [parse_bind_of_ok h.parse_eq]
  rfl

end PhraseKey.Parser
