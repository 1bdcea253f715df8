import PhraseKey.Proofs.FieldAcceptance

/-!
Octets are accounted for. Length-checked reads of a buffer may follow each other in any order, and go on
behind those that fail. What they gave out, what they took off without giving it out and what remains is
then the content of the buffer, in this order.
-/

namespace PhraseKey

namespace Item

/-- What a read that asks for the item yields. -/
abbrev Value : Item → Type
  | u8 => UInt8
  | u16 => UInt16
  | u32 => UInt32
  | array length => Octets length
  | take _ => List UInt8
  | tag _ => Unit

def read (field : String) : (item : Item) → Parser item.Value
  | u8 => Parser.u8 field
  | u16 => Parser.u16 field
  | u32 => Parser.u32 field
  | array length => Parser.array field length
  | take length => Parser.take field length
  | tag expected => Parser.tag field expected

/-- The octets that a value was read from. -/
def octets : (item : Item) → item.Value → List UInt8
  | u8, value => [value]
  | u16, value => bigEndian 2 value.toNat
  | u32, value => bigEndian 4 value.toNat
  | array _, value => value.toList
  | take _, value => value
  | tag expected, () => expected

variable {item : Item} {octets : List UInt8}

theorem accepts_read (field : String) (item : Item) :
    (item.read field).Accepts fun front value => front = item.octets value := by
  cases item with
  | u8 => exact Parser.accepts_u8 field
  | u16 => exact Parser.accepts_u16 field
  | u32 => exact Parser.accepts_u32 field
  | array length => exact Parser.accepts_array field length
  | take length => exact (Parser.accepts_take field length).imp fun _ _ hTaken => hTaken.1
  | tag expected => exact Parser.accepts_tag field expected

/-- A read that asks for more than is left takes nothing off. -/
theorem parse_read_of_lt (short : octets.length < item.length) (field : String) :
    (item.read field).parse octets = (.error (.shortField field item), octets) := by
  have hSplit := Parser.parse_split_of_lt short field
  cases item with
  | array length => exact hSplit
  | u8 | u16 | u32 | take | tag => exact Parser.parse_bind_of_error hSplit _

/-- An expected field is taken off before it is looked at. -/
theorem parse_read_tag {expected : List UInt8} (enough : (tag expected).length ≤ octets.length)
    (field : String) :
    ((tag expected).read field).parse octets =
      (if octets.take expected.length = expected then .ok ()
        else .error (.unexpectedField field expected (octets.take expected.length)),
      octets.drop expected.length) := by
  refine (Parser.parse_bind_of_ok (Parser.parse_split_of_le enough field) _).trans ?_
  change (Parser.ensure (octets.take expected.length = expected) _).parse _ = _
  rw [Parser.ensure]
  split <;> rfl

end Item

/-- A read of a buffer: an item for a field, or everything that is left. -/
inductive FieldCall where
  | field (name : String) (item : Item)
  | rest
  deriving DecidableEq

namespace FieldCall

abbrev Value : FieldCall → Type
  | field _ item => item.Value
  | rest => List UInt8

def read : (call : FieldCall) → Parser call.Value
  | field name item => item.read name
  | rest => Parser.rest

/-- The number of octets that are asked for when these are left. -/
def demand : FieldCall → List UInt8 → Nat
  | field _ item, _ => item.length
  | rest, octets => octets.length

/-- The octets that a value was read from. -/
def octets : (call : FieldCall) → call.Value → List UInt8
  | field _ item, value => item.octets value
  | rest, value => value

/-- What a call comes to when these octets are left, and what it leaves of them. -/
inductive Ends (octets : List UInt8) :
    (call : FieldCall) → Except Error call.Value → List UInt8 → Prop where
  /-- The value is what was taken off, and that is what was asked for. -/
  | taken {call : FieldCall} {value : call.Value} {left : List UInt8}
      (octets_eq : octets = call.octets value ++ left)
      (length_eq : (call.octets value).length = call.demand octets) : Ends octets call (.ok value) left
  /-- More is asked for than is left, and all of that remains. -/
  | short {name : String} {item : Item} (short : octets.length < item.length) :
      Ends octets (field name item) (.error (.shortField name item)) octets
  /-- As much as was expected is taken off, but it is something else. -/
  | refused {name : String} {expected found left : List UInt8} (octets_eq : octets = found ++ left)
      (length_eq : found.length = expected.length) (differs : found ≠ expected) :
      Ends octets (field name (.tag expected)) (.error (.unexpectedField name expected found)) left

variable {octets : List UInt8}

/-- An item that was read is what was taken off. -/
theorem ends_of_parse_eq_ok {name : String} {item : Item} {value : item.Value}
    (enough : item.length ≤ octets.length)
    (hParse : (item.read name).parse octets = (.ok value, octets.drop item.length)) :
    (field name item).Ends octets ((item.read name).parse octets).1
      ((item.read name).parse octets).2 := by
  obtain ⟨front, hOctets, hFront⟩ := Item.accepts_read name item octets value _ hParse
  subst hFront
  rw [hParse]
  refine .taken hOctets ?_
  have hLength := congrArg List.length hOctets
  rw [List.length_append, List.length_drop] at hLength
  change (item.octets value).length = item.length
  omega

/-- Whatever is left, a call ends in one of these ways. -/
theorem ends_read (call : FieldCall) (octets : List UInt8) :
    call.Ends octets (call.read.parse octets).1 (call.read.parse octets).2 := by
  cases call with
  | rest => exact .taken (List.append_nil octets).symm rfl
  | field name item =>
      change (field name item).Ends octets ((item.read name).parse octets).1
        ((item.read name).parse octets).2
      rcases Nat.lt_or_ge octets.length item.length with hShort | hEnough
      · rw [Item.parse_read_of_lt hShort]
        exact .short hShort
      · have hSplit := Parser.parse_split_of_le hEnough name
        cases item with
        | array length => exact ends_of_parse_eq_ok hEnough hSplit
        | u8 | u16 | u32 | take =>
            exact ends_of_parse_eq_ok hEnough (Parser.parse_bind_of_ok hSplit _)
        | tag expected =>
            have hParse := Item.parse_read_tag hEnough name
            by_cases hFound : octets.take expected.length = expected
            · rw [if_pos hFound] at hParse
              exact ends_of_parse_eq_ok hEnough hParse
            · rw [if_neg hFound] at hParse
              rw [hParse]
              exact .refused (List.take_append_drop _ _).symm (List.length_take_of_le hEnough) hFound

end FieldCall

/-- A call and what came of it. -/
structure FieldAnswer where
  call : FieldCall
  result : Except Error call.Value

/-- The octets that were taken off for nothing. -/
def Error.dropped : Error → List UInt8
  | unexpectedField _ _ found => found
  | _ => []

/-- The octets that an answer accounts for. -/
def FieldAnswer.octets (answer : FieldAnswer) : List UInt8 :=
  match answer.result with
  | .ok value => answer.call.octets value
  | .error error => error.dropped

namespace FieldCall

/-- What comes of calls, one after another and whatever came of those before, and what remains. -/
def run : List FieldCall → List UInt8 → List FieldAnswer × List UInt8
  | [], octets => ([], octets)
  | call :: calls, octets =>
    let answer := call.read.parse octets
    let others := run calls answer.2
    (⟨call, answer.1⟩ :: others.1, others.2)

/-- One call takes off what its answer accounts for, and nothing else. -/
theorem Ends.octets_append {call : FieldCall} {octets left : List UInt8}
    {result : Except Error call.Value} (h : call.Ends octets result left) :
    FieldAnswer.octets ⟨call, result⟩ ++ left = octets := by
  cases h with
  | taken octets_eq => exact octets_eq.symm
  | short => rfl
  | refused octets_eq => exact octets_eq.symm

/-- So do calls that follow each other, by induction on the calls. -/
theorem flatMap_octets_run (calls : List FieldCall) (octets : List UInt8) :
    (run calls octets).1.flatMap FieldAnswer.octets ++ (run calls octets).2 = octets := by
  induction calls generalizing octets with
  | nil => rfl
  | cons call calls ih =>
      change (_ :: (run calls (call.read.parse octets).2).1).flatMap FieldAnswer.octets ++
        (run calls (call.read.parse octets).2).2 = octets
      rw [List.flatMap_cons, List.append_assoc, ih]
      exact (call.ends_read octets).octets_append

/-- A call at the end comes to what it comes to on what the others left. -/
theorem run_concat (calls : List FieldCall) (call : FieldCall) (octets : List UInt8) :
    run (calls ++ [call]) octets =
      ((run calls octets).1 ++ [⟨call, (call.read.parse (run calls octets).2).1⟩],
        (call.read.parse (run calls octets).2).2) := by
  induction calls generalizing octets with
  | nil => rfl
  | cons first calls ih =>
      rw [List.cons_append, run, ih]
      rfl

namespace Ends

variable {call : FieldCall} {octets left : List UInt8} {result : Except Error call.Value}

/-- A call is too short exactly if it asks for more than is left. -/
theorem short_iff (h : call.Ends octets result left) (name : String) (item : Item) :
    result = .error (.shortField name item) ↔
      call = field name item ∧ octets.length < item.length := by
  constructor
  · rintro rfl
    cases h with
    | short short => exact ⟨rfl, short⟩
  · rintro ⟨rfl, short⟩
    cases h with
    | short => rfl
    | taken octets_eq length_eq =>
        change _ = item.length at length_eq
        rw [octets_eq, List.length_append] at short
        omega
    | @refused _ expected _ _ octets_eq length_eq =>
        change _ < expected.length at short
        rw [octets_eq, List.length_append] at short
        omega

/-- An expected field is refused exactly if there are enough octets for it, and others. -/
theorem refused_iff (h : call.Ends octets result left) (name : String) (expected found : List UInt8) :
    result = .error (.unexpectedField name expected found) ↔
      call = field name (.tag expected) ∧ expected.length ≤ octets.length ∧
        found = octets.take expected.length ∧ found ≠ expected := by
  constructor
  · rintro rfl
    cases h with
    | refused octets_eq length_eq differs =>
        have hEnough : expected.length ≤ octets.length := by
          rw [octets_eq, List.length_append]
          omega
        refine ⟨rfl, hEnough, ?_, differs⟩
        rw [octets_eq, List.take_left' length_eq]
  · rintro ⟨rfl, enough, rfl, differs⟩
    cases h with
    | short short => exact absurd enough (Nat.not_le.mpr short)
    | taken octets_eq length_eq =>
        refine absurd ?_ differs
        rw [octets_eq]
        exact List.take_left
    | refused octets_eq length_eq =>
        rw [octets_eq, List.take_left' length_eq]

/-- Failures are of no other kinds. What was too short stays, and what was refused is gone. -/
theorem of_error (h : call.Ends octets result left) {error : Error} (hError : result = .error error) :
    (∃ name item, error = .shortField name item ∧ left = octets) ∨
      ∃ name expected found, error = .unexpectedField name expected found ∧
        left = octets.drop expected.length := by
  subst hError
  cases h with
  | short => exact .inl ⟨_, _, rfl, rfl⟩
  | refused octets_eq length_eq =>
      refine .inr ⟨_, _, _, rfl, ?_⟩
      rw [octets_eq, List.drop_left' length_eq]

theorem of_ok (h : call.Ends octets result left) {value : call.Value} (hValue : result = .ok value) :
    octets = call.octets value ++ left ∧ (call.octets value).length = call.demand octets := by
  subst hValue
  cases h with
  | taken octets_eq length_eq => exact ⟨octets_eq, length_eq⟩

end Ends

end FieldCall

/-- Length-checked reads neither lose nor duplicate octets. Whatever calls are made, the octets of the
values and those of the refused fields, in order and with what remains behind them, are the content of the
buffer. Whichever call comes next, it is too short exactly if it asks for more than remains, and then takes
nothing off. It refuses an expected field exactly if as many octets remain and are others, and then has
taken off that many. Otherwise it yields a value from exactly the octets that it asks for. -/
theorem reads_account_for_octets (octets : List UInt8) (calls : List FieldCall) :
    let answers := (FieldCall.run calls octets).1
    let left := (FieldCall.run calls octets).2
    answers.flatMap FieldAnswer.octets ++ left = octets ∧
      ∀ call : FieldCall, ∃ (result : Except Error call.Value) (next : List UInt8),
        FieldCall.run (calls ++ [call]) octets = (answers ++ [⟨call, result⟩], next) ∧
        (∀ name item, result = .error (.shortField name item) ↔
          call = .field name item ∧ left.length < item.length) ∧
        (∀ name expected found, result = .error (.unexpectedField name expected found) ↔
          call = .field name (.tag expected) ∧ expected.length ≤ left.length ∧
            found = left.take expected.length ∧ found ≠ expected) ∧
        (∀ error, result = .error error →
          (∃ name item, error = .shortField name item ∧ next = left) ∨
            ∃ name expected found, error = .unexpectedField name expected found ∧
              next = left.drop expected.length) ∧
        ∀ value, result = .ok value → left = call.octets value ++ next ∧
          (call.octets value).length = call.demand left := by
  intro answers left
  refine ⟨FieldCall.flatMap_octets_run calls octets, fun call => ?_⟩
  have hEnds := call.ends_read left
  exact ⟨(call.read.parse left).1, (call.read.parse left).2, FieldCall.run_concat calls call octets,
    hEnds.short_iff, hEnds.refused_iff, fun _ => hEnds.of_error, fun _ => hEnds.of_ok⟩

/-- A field is refused, the next read is too short, and two more take what is left. -/
theorem reads_account_for_octets_mixed :
    let calls : List FieldCall := [.field "curve" (.tag [0x2B, 0x06]), .field "created" .u32,
      .field "bits" .u16, .rest]
    let run := FieldCall.run calls [0x2B, 0x07, 0x01, 0x02, 0x03]
    run.1.map FieldAnswer.octets = [[0x2B, 0x07], [], [0x01, 0x02], [0x03]] ∧ run.2 = [] ∧
      run.1.flatMap FieldAnswer.octets ++ run.2 = [0x2B, 0x07, 0x01, 0x02, 0x03] ∧
      ∃ result, FieldCall.run (calls ++ [.field "end" .u8]) [0x2B, 0x07, 0x01, 0x02, 0x03] =
          (run.1 ++ [⟨.field "end" .u8, result⟩], []) ∧
        result = .error (.shortField "end" .u8) := by
  intro calls run
  obtain ⟨hOctets, hNext⟩ := reads_account_for_octets [0x2B, 0x07, 0x01, 0x02, 0x03] calls
  obtain ⟨result, next, hRun, hShort, -, hError, -⟩ := hNext (.field "end" .u8)
  have hResult : result = .error (.shortField "end" .u8) := (hShort "end" .u8).mpr ⟨rfl, by decide⟩
  have hLeft : next = [] := by
    rcases hError _ hResult with ⟨_, _, -, hLeft⟩ | ⟨_, _, _, hOther, -⟩
    · exact hLeft
    · cases hOther
  subst hLeft
  exact ⟨rfl, rfl, hOctets, result, hRun, hResult⟩

end PhraseKey
