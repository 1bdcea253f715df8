/-!
Octet strings, the numbers they spell in either byte order, and their hexadecimal text. Every octet
string is the writing of the number it spells.
-/

namespace PhraseKey

/-- An octet string of exactly `n` octets. -/
structure Octets (n : Nat) where
  toList : List UInt8
  length_toList : toList.length = n
  deriving DecidableEq

attribute [simp] Octets.length_toList

namespace Octets

@[ext]
theorem ext {n : Nat} {a b : Octets n} (h : a.toList = b.toList) : a = b := by
  cases a
  cases b
  cases h
  rfl

/-- A list of octets as a string of fixed length, if it has that length. -/
def ofList? (n : Nat) (octets : List UInt8) : Option (Octets n) :=
  if h : octets.length = n then some ⟨octets, h⟩ else none

theorem ofList?_toList {n : Nat} (a : Octets n) : ofList? n a.toList = some a := by
  simp [ofList?]

/-- The first `m` octets of a string of `m + n`. -/
def front {m n : Nat} (a : Octets (m + n)) : Octets m :=
  ⟨a.toList.take m, by simp⟩

/-- The last `n` octets of a string of `m + n`. -/
def back {m n : Nat} (a : Octets (m + n)) : Octets n :=
  ⟨a.toList.drop m, by simp⟩

def append {m n : Nat} (a : Octets m) (b : Octets n) : Octets (m + n) :=
  ⟨a.toList ++ b.toList, by simp⟩

theorem front_append_back {m n : Nat} (a : Octets (m + n)) : a.front.append a.back = a := by
  ext1
  simp [front, back, append]

def reverse {n : Nat} (a : Octets n) : Octets n :=
  ⟨a.toList.reverse, by simp⟩

@[simp]
theorem reverse_reverse {n : Nat} (a : Octets n) : a.reverse.reverse = a := by
  ext1
  simp [reverse]

end Octets

/-- Values that are written one after another take as many octets as they take each, in sum. -/
theorem length_flatMap_of_cons {α : Type} {encode : α → List UInt8} {encodedLength : α → Nat}
    {total : List α → Nat} (length_encode : ∀ value, (encode value).length = encodedLength value)
    (nil : total [] = 0)
    (cons : ∀ value rest, total (value :: rest) = encodedLength value + total rest)
    (values : List α) : (values.flatMap encode).length = total values := by
  induction values with
  | nil => rw [nil, List.flatMap_nil, List.length_nil]
  | cons value rest ih => rw [List.flatMap_cons, List.length_append, length_encode, ih, cons]

/-- The lowest `n` octets of a number, least significant first. -/
def littleEndian (n value : Nat) : List UInt8 :=
  match n with
  | 0 => []
  | n + 1 => UInt8.ofNat value :: littleEndian n (value / 256)

/-- The lowest `n` octets of a number, most significant first. -/
def bigEndian (n value : Nat) : List UInt8 :=
  (littleEndian n value).reverse

/-- The number an octet string spells with its least significant octet first. -/
def ofLittleEndian (octets : List UInt8) : Nat :=
  octets.foldr (fun octet value => octet.toNat + 256 * value) 0

/-- The number an octet string spells with its most significant octet first. -/
def ofBigEndian (octets : List UInt8) : Nat :=
  ofLittleEndian octets.reverse

@[simp]
theorem length_littleEndian (n value : Nat) : (littleEndian n value).length = n := by
  induction n generalizing value with
  | zero => rfl
  | succ n ih => simp [littleEndian, ih]

@[simp]
theorem length_bigEndian (n value : Nat) : (bigEndian n value).length = n := by
  simp [bigEndian]

theorem littleEndian_ofLittleEndian (octets : List UInt8) :
    littleEndian octets.length (ofLittleEndian octets) = octets := by
  induction octets with
  | nil => rfl
  | cons octet rest ih =>
    have step : ofLittleEndian (octet :: rest) = octet.toNat + 256 * ofLittleEndian rest := rfl
    have bound := octet.toNat_lt
    have quotient : (octet.toNat + 256 * ofLittleEndian rest) / 256 = ofLittleEndian rest := by
      omega
    rw [step, List.length_cons, littleEndian, quotient, ih]
    congr 1
    apply UInt8.toNat_inj.mp
    rw [UInt8.toNat_ofNat']
    omega

theorem bigEndian_ofBigEndian (octets : List UInt8) :
    bigEndian octets.length (ofBigEndian octets) = octets := by
  have h := littleEndian_ofLittleEndian octets.reverse
  rw [List.length_reverse] at h
  rw [bigEndian, ofBigEndian, h, List.reverse_reverse]

private def hexDigit (value : Nat) : Char :=
  if value < 10 then Char.ofNat (48 + value) else Char.ofNat (87 + value)

/-- Two lower case digits for each octet. -/
def hex (octets : List UInt8) : String :=
  String.ofList <| octets.flatMap fun octet =>
    [hexDigit (octet.toNat / 16), hexDigit (octet.toNat % 16)]

/-- Two upper case digits for each octet. -/
def hexUpper (octets : List UInt8) : String :=
  String.ofList ((hex octets).toList.map Char.toUpper)

/-- The octets as decimal numbers between brackets. -/
def decimalList (octets : List UInt8) : String :=
  "[" ++ ", ".intercalate (octets.map fun octet => toString octet.toNat) ++ "]"

end PhraseKey
