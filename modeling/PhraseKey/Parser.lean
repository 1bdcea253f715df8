import PhraseKey.Stateful

/-!
Length-checked reads from the front of an octet string. A read that asks for more than is left fails
and leaves everything where it was. A field of the wrong value fails too, but is taken off first.
-/

namespace PhraseKey

/-- A reading of the front of an octet string. What is left remains known when the reading fails. -/
abbrev Parser := ExceptT Error (StateM (List UInt8))

namespace Parser

/-- The outcome of a reading and what it left. -/
def parse {α : Type} (parser : Parser α) (octets : List UInt8) : Except Error α × List UInt8 :=
  parser.run octets

variable {α β : Type}

@[simp]
theorem parse_pure (value : α) (octets : List UInt8) :
    (pure value : Parser α).parse octets = (.ok value, octets) := rfl

theorem parse_bind_of_ok {first : Parser α} {octets left : List UInt8} {value : α}
    (h : first.parse octets = (.ok value, left)) (next : α → Parser β) :
    (first >>= next).parse octets = (next value).parse left :=
  run_bind_of_ok h next

/-- What a failure left is final. -/
theorem parse_bind_of_error {first : Parser α} {octets left : List UInt8} {error : Error}
    (h : first.parse octets = (.error error, left)) (next : α → Parser β) :
    (first >>= next).parse octets = (.error error, left) :=
  run_bind_of_error h next

def fail {α : Type} (error : Error) : Parser α :=
  ExceptT.mk fun octets => (.error error, octets)

def ensure (condition : Prop) [Decidable condition] (error : Error) : Parser Unit :=
  if condition then pure () else fail error

/-- The first `item.length` octets, if there are that many. -/
def split (field : String) (item : Item) : Parser (Octets item.length) :=
  ExceptT.mk fun octets =>
    if h : item.length ≤ octets.length then
      (.ok ⟨octets.take item.length, by simp [h]⟩, octets.drop item.length)
    else
      (.error (.shortField field item), octets)

theorem parse_split_of_le {item : Item} {octets : List UInt8} (enough : item.length ≤ octets.length)
    (field : String) :
    (split field item).parse octets =
      (.ok ⟨octets.take item.length, List.length_take_of_le enough⟩, octets.drop item.length) := by
  simp [split, parse, ExceptT.run, ExceptT.mk, enough]

/-- A short reading takes nothing off. -/
theorem parse_split_of_lt {item : Item} {octets : List UInt8} (short : octets.length < item.length)
    (field : String) :
    (split field item).parse octets = (.error (.shortField field item), octets) := by
  have : ¬ item.length ≤ octets.length := by omega
  simp [split, parse, ExceptT.run, ExceptT.mk, this]

def u8 (field : String) : Parser UInt8 := do
  let octets ← split field .u8
  return UInt8.ofNat (ofBigEndian octets.toList)

def u16 (field : String) : Parser UInt16 := do
  let octets ← split field .u16
  return UInt16.ofNat (ofBigEndian octets.toList)

def u32 (field : String) : Parser UInt32 := do
  let octets ← split field .u32
  return UInt32.ofNat (ofBigEndian octets.toList)

def array (field : String) (n : Nat) : Parser (Octets n) :=
  split field (.array n)

def take (field : String) (n : Nat) : Parser (List UInt8) := do
  let octets ← split field (.take n)
  return octets.toList

/-- Take off a field that must be `expected`. -/
def tag (field : String) (expected : List UInt8) : Parser Unit := do
  let found ← split field (.tag expected)
  ensure (found.toList = expected) (.unexpectedField field expected found.toList)

/-- Everything that is left. -/
def rest : Parser (List UInt8) :=
  ExceptT.mk fun octets => (.ok octets, [])

/-- Fail unless nothing is left. -/
def finish (error : Error) : Parser Unit :=
  ExceptT.mk fun octets => (if octets = [] then .ok () else .error error, octets)

end Parser

end PhraseKey
