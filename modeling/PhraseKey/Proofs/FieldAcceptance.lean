import PhraseKey.Parser
import PhraseKey.Proofs.OctetNumbers

/-!
Fields that were accepted. A parser that succeeds has taken some octets off the front, and those have
the form it accepts for the value that it yields. Whatever a parser fails with is an error of the
format.
-/

namespace PhraseKey

namespace Octets

variable {n : Nat}

/-- Octets are the writing of the number they spell. -/
theorem bigEndian_toList (octets : Octets n) :
    bigEndian n (ofBigEndian octets.toList) = octets.toList := by
  have hOctets := bigEndian_ofBigEndian octets.toList
  rwa [octets.length_toList] at hOctets

theorem ofBigEndian_toList_lt (octets : Octets n) : ofBigEndian octets.toList < 256 ^ n := by
  have hBound := ofBigEndian_lt octets.toList
  rwa [octets.length_toList] at hBound

end Octets

/-- Nothing is lost in an integer of the size of the octets. -/
theorem bigEndian_two_ofBigEndian (octets : Octets 2) :
    bigEndian 2 (UInt16.ofNat (ofBigEndian octets.toList)).toNat = octets.toList := by
  have hFits : ofBigEndian octets.toList < 2 ^ 16 := octets.ofBigEndian_toList_lt
  rw [UInt16.toNat_ofNat', Nat.mod_eq_of_lt hFits, octets.bigEndian_toList]

theorem bigEndian_four_ofBigEndian (octets : Octets 4) :
    bigEndian 4 (UInt32.ofNat (ofBigEndian octets.toList)).toNat = octets.toList := by
  have hFits : ofBigEndian octets.toList < 2 ^ 32 := octets.ofBigEndian_toList_lt
  rw [UInt32.toNat_ofNat', Nat.mod_eq_of_lt hFits, octets.bigEndian_toList]

namespace Parser

variable {α β : Type}

/-- Whenever the parser succeeds, what it took off the front has this form for its value. -/
def Accepts (parser : Parser α) (form : List UInt8 → α → Prop) : Prop :=
  ∀ octets value rest, parser.parse octets = (.ok value, rest) →
    ∃ front, octets = front ++ rest ∧ form front value

theorem Accepts.imp {parser : Parser α} {form form' : List UInt8 → α → Prop}
    (h : parser.Accepts form) (hForm : ∀ front value, form front value → form' front value) :
    parser.Accepts form' := by
  intro octets value rest hParse
  obtain ⟨front, hFront, hValue⟩ := h octets value rest hParse
  exact ⟨front, hFront, hForm front value hValue⟩

theorem accepts_pure {form : List UInt8 → α → Prop} {value : α} (h : form [] value) :
    (pure value : Parser α).Accepts form := by
  rintro octets _ _ ⟨⟩
  exact ⟨[], rfl, h⟩

theorem accepts_fail {form : List UInt8 → α → Prop} (error : Error) :
    (fail error : Parser α).Accepts form := by
  rintro octets _ _ ⟨⟩

/-- The form of what follows is that of the whole, behind what was taken off first. -/
theorem Accepts.bind {first : Parser α} {next : α → Parser β} {form : List UInt8 → α → Prop}
    {whole : List UInt8 → β → Prop} (hFirst : first.Accepts form)
    (hNext : ∀ front value, form front value →
      (next value).Accepts fun back result => whole (front ++ back) result) :
    (first >>= next).Accepts whole := by
  intro octets result rest h
  rcases hParse : first.parse octets with ⟨error | value, left⟩
  · rw [parse_bind_of_error hParse] at h
    cases h
  · rw [parse_bind_of_ok hParse] at h
    obtain ⟨front, rfl, hForm⟩ := hFirst octets value left hParse
    obtain ⟨back, rfl, hWhole⟩ := hNext front value hForm left result rest h
    exact ⟨front ++ back, (List.append_assoc ..).symm, hWhole⟩

/-- What takes nothing off, in front of what does. -/
theorem Accepts.after {first : Parser α} {next : α → Parser β} {holds : α → Prop}
    {whole : List UInt8 → β → Prop}
    (hFirst : first.Accepts fun front value => front = [] ∧ holds value)
    (hNext : ∀ value, holds value → (next value).Accepts whole) :
    (first >>= next).Accepts whole := by
  refine hFirst.bind ?_
  rintro _ value ⟨rfl, hHolds⟩
  exact hNext value hHolds

/-- A condition that is insisted on holds, and takes nothing off. -/
theorem accepts_ensure (condition : Prop) [Decidable condition] (error : Error) :
    (ensure condition error).Accepts fun front _ => front = [] ∧ condition := by
  rw [ensure]
  split
  · next holds => exact accepts_pure ⟨rfl, holds⟩
  · exact accepts_fail error

theorem accepts_ofExcept (outcome : Except Error α) :
    (liftM outcome : Parser α).Accepts fun front value => front = [] ∧ outcome = .ok value := by
  intro octets value rest h
  change (outcome, octets) = _ at h
  cases h
  exact ⟨[], rfl, rfl, rfl⟩

theorem accepts_split (field : String) (item : Item) :
    (split field item).Accepts fun front value => front = value.toList := by
  intro octets value rest h
  by_cases hEnough : item.length ≤ octets.length
  · rw [parse_split_of_le hEnough] at h
    cases h
    exact ⟨_, (List.take_append_drop item.length octets).symm, rfl⟩
  · rw [parse_split_of_lt (by omega)] at h
    cases h

/-- An item of fixed length, and what is made of its octets. -/
theorem accepts_split_map (field : String) (item : Item) {form : List UInt8 → α → Prop}
    {value : Octets item.length → α} (h : ∀ octets, form octets.toList (value octets)) :
    (split field item >>= fun octets => pure (value octets)).Accepts form := by
  refine (accepts_split field item).bind ?_
  rintro _ octets rfl
  refine accepts_pure ?_
  rw [List.append_nil]
  exact h octets

theorem accepts_u8 (field : String) : (u8 field).Accepts fun front value => front = [value] := by
  refine accepts_split_map field .u8 fun octets => ?_
  obtain ⟨octet, hOctet⟩ := List.length_eq_one_iff.mp octets.length_toList
  rw [hOctet]
  simp [ofBigEndian, ofLittleEndian]

theorem accepts_u16 (field : String) :
    (u16 field).Accepts fun front value => front = bigEndian 2 value.toNat :=
  accepts_split_map field .u16 fun octets => (bigEndian_two_ofBigEndian octets).symm

theorem accepts_u32 (field : String) :
    (u32 field).Accepts fun front value => front = bigEndian 4 value.toNat :=
  accepts_split_map field .u32 fun octets => (bigEndian_four_ofBigEndian octets).symm

theorem accepts_array (field : String) (n : Nat) :
    (array field n).Accepts fun front value => front = value.toList :=
  accepts_split field (.array n)

theorem accepts_take (field : String) (n : Nat) :
    (take field n).Accepts fun front value => front = value ∧ value.length = n :=
  accepts_split_map field (.take n) fun octets => ⟨rfl, octets.length_toList⟩

theorem accepts_tag (field : String) (expected : List UInt8) :
    (tag field expected).Accepts fun front _ => front = expected := by
  refine (accepts_split field (.tag expected)).bind ?_
  rintro _ found rfl
  refine (accepts_ensure _ _).imp ?_
  rintro _ _ ⟨rfl, hFound⟩
  rw [List.append_nil, hFound]

/-- A parser that must leave nothing has taken everything. -/
theorem Accepts.of_parse_finish {parser : Parser α} {form : List UInt8 → α → Prop} {error : Error}
    {octets : List UInt8} {value : α} (hParser : parser.Accepts form)
    (h : ((do let value ← parser; finish error; return value : Parser α).parse octets).1 =
      .ok value) : form octets value := by
  rcases hParse : parser.parse octets with ⟨found | result, left⟩
  · rw [parse_bind_of_error hParse] at h
    cases h
  · rw [parse_bind_of_ok hParse] at h
    cases left with
    | nil =>
        cases h
        obtain ⟨front, rfl, hForm⟩ := hParser octets value [] hParse
        rwa [List.append_nil]
    | cons octet left => cases h

/-- Whatever the parser fails with is an error of the format. -/
def FailsAsFormat (parser : Parser α) : Prop :=
  ∀ octets error, (parser.parse octets).1 = .error error → error.kind = .format

theorem failsAsFormat_pure (value : α) : (pure value : Parser α).FailsAsFormat := by
  rintro octets error ⟨⟩

theorem failsAsFormat_fail {error : Error} (hKind : error.kind = .format) :
    (fail error : Parser α).FailsAsFormat := by
  rintro octets _ ⟨⟩
  exact hKind

theorem FailsAsFormat.bind {first : Parser α} {next : α → Parser β} (hFirst : first.FailsAsFormat)
    (hNext : ∀ value, (next value).FailsAsFormat) : (first >>= next).FailsAsFormat := by
  intro octets error h
  rcases hParse : first.parse octets with ⟨found | value, left⟩
  · rw [parse_bind_of_error hParse] at h
    cases h
    exact hFirst octets error (congrArg Prod.fst hParse)
  · rw [parse_bind_of_ok hParse] at h
    exact hNext value left error h

theorem failsAsFormat_ensure {condition : Prop} [Decidable condition] {error : Error}
    (hKind : error.kind = .format) : (ensure condition error).FailsAsFormat := by
  rw [ensure]
  split
  · exact failsAsFormat_pure ()
  · exact failsAsFormat_fail hKind

theorem failsAsFormat_ofExcept {outcome : Except Error α}
    (hKind : ∀ error, outcome = .error error → error.kind = .format) :
    (liftM outcome : Parser α).FailsAsFormat :=
  fun _ error h => hKind error h

theorem failsAsFormat_split (field : String) (item : Item) : (split field item).FailsAsFormat := by
  intro octets error h
  by_cases hEnough : item.length ≤ octets.length
  · rw [parse_split_of_le hEnough] at h
    cases h
  · rw [parse_split_of_lt (by omega)] at h
    cases h
    rfl

theorem failsAsFormat_u8 (field : String) : (u8 field).FailsAsFormat :=
  (failsAsFormat_split field .u8).bind fun _ => failsAsFormat_pure _

theorem failsAsFormat_u16 (field : String) : (u16 field).FailsAsFormat :=
  (failsAsFormat_split field .u16).bind fun _ => failsAsFormat_pure _

theorem failsAsFormat_u32 (field : String) : (u32 field).FailsAsFormat :=
  (failsAsFormat_split field .u32).bind fun _ => failsAsFormat_pure _

theorem failsAsFormat_array (field : String) (n : Nat) : (array field n).FailsAsFormat :=
  failsAsFormat_split field (.array n)

theorem failsAsFormat_take (field : String) (n : Nat) : (take field n).FailsAsFormat :=
  (failsAsFormat_split field (.take n)).bind fun _ => failsAsFormat_pure _

theorem failsAsFormat_tag (field : String) (expected : List UInt8) :
    (tag field expected).FailsAsFormat :=
  (failsAsFormat_split field (.tag expected)).bind fun _ => failsAsFormat_ensure rfl

theorem failsAsFormat_finish {error : Error} (hKind : error.kind = .format) :
    (finish error).FailsAsFormat := by
  intro octets found h
  change (if octets = [] then Except.ok () else .error error) = _ at h
  split at h
  · cases h
  · cases h
    exact hKind

end Parser

end PhraseKey
