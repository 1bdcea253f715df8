/-!
Base64 with the standard alphabet and mandatory, canonical padding: every octet string has exactly
one encoding, and decoding says where and why a text is not one.
-/

namespace PhraseKey.Base64

/-- The octet that stands for six bits. -/
def symbol (value : Nat) : UInt8 :=
  if value < 26 then UInt8.ofNat (65 + value)
  else if value < 52 then UInt8.ofNat (71 + value)
  else if value < 62 then UInt8.ofNat (value - 4)
  else if value = 62 then 43
  else 47

/-- The six bits an octet of the alphabet stands for. -/
def value? (octet : UInt8) : Option Nat :=
  if 65 ≤ octet ∧ octet ≤ 90 then some (octet.toNat - 65)
  else if 97 ≤ octet ∧ octet ≤ 122 then some (octet.toNat - 71)
  else if 48 ≤ octet ∧ octet ≤ 57 then some (octet.toNat + 4)
  else if octet = 43 then some 62
  else if octet = 47 then some 63
  else none

/-- The padding octet, an equals sign. -/
def pad : UInt8 := 61

/-- Three octets to a group of four symbols. A last group of one or two octets is filled up with zero
bits to whole symbols and with padding to four. -/
def encode : List UInt8 → List UInt8
  | [] => []
  | [a] => [symbol (a.toNat / 4), symbol (a.toNat % 4 * 16), pad, pad]
  | [a, b] =>
    [symbol (a.toNat / 4), symbol (a.toNat % 4 * 16 + b.toNat / 16), symbol (b.toNat % 16 * 4), pad]
  | a :: b :: c :: rest =>
    symbol (a.toNat / 4) :: symbol (a.toNat % 4 * 16 + b.toNat / 16) ::
      symbol (b.toNat % 16 * 4 + c.toNat / 64) :: symbol (c.toNat % 64) :: encode rest

/-- Why a text is no encoding. Offsets count from the start of the text. -/
inductive DecodeError where
  /-- An octet that cannot stand where it stands. -/
  | invalidSymbol (octet : UInt8) (offset : Nat)
  /-- The last group has fewer than two symbols. The length counts all but its padding. -/
  | invalidLength (length : Nat)
  /-- The last symbol has bits that belong to no octet. -/
  | invalidLastSymbol (octet : UInt8) (offset : Nat)
  | invalidPadding
  deriving DecidableEq

namespace DecodeError

def message : DecodeError → String
  | invalidSymbol octet offset =>
    "Invalid symbol " ++ toString octet.toNat ++ ", offset " ++ toString offset ++ "."
  | invalidLength length => "Invalid input length: " ++ toString length
  | invalidLastSymbol octet offset =>
    "Invalid last symbol " ++ toString octet.toNat ++ ", offset " ++ toString offset ++ "."
  | invalidPadding => "Invalid padding"

end DecodeError

/-- The value of a symbol at an offset. -/
def valueAt (octet : UInt8) (offset : Nat) : Except DecodeError Nat :=
  match value? octet with
  | some value => .ok value
  | none => .error (.invalidSymbol octet offset)

/-- The three octets of four six bit values. -/
def groupOctets (a b c d : Nat) : List UInt8 :=
  [UInt8.ofNat (a * 4 + b / 16), UInt8.ofNat (b * 16 + c / 4), UInt8.ofNat (c * 64 + d)]

/-- The symbols of the last group with their values, up to its padding. Padding may only be followed
by padding, and may not stand in the first two places. -/
def tailValues (start index : Nat) : List UInt8 → Except DecodeError (List (UInt8 × Nat))
  | [] => .ok []
  | octet :: rest =>
    if octet = pad then
      if index < 2 then .error (.invalidSymbol pad (start + index))
      else if rest.all (· == pad) then .ok []
      else .error (.invalidSymbol pad (start + index))
    else do
      let value ← valueAt octet (start + index)
      let values ← tailValues start (index + 1) rest
      return (octet, value) :: values

/-- The last group, of one to four octets, or the empty end of an empty text. -/
def decodeTail (start : Nat) (tail : List UInt8) : Except DecodeError (List UInt8) := do
  let values ← tailValues start 0 tail
  match values with
  | [] => if tail = [] then .ok [] else .error (.invalidLength start)
  | [_] => .error (.invalidLength (start + 1))
  | [(_, a), (last, b)] =>
    if tail.length ≠ 4 then .error .invalidPadding
    else if b % 16 ≠ 0 then .error (.invalidLastSymbol last (start + 1))
    else .ok ((groupOctets a b 0 0).take 1)
  | [(_, a), (_, b), (last, c)] =>
    if tail.length ≠ 4 then .error .invalidPadding
    else if c % 4 ≠ 0 then .error (.invalidLastSymbol last (start + 2))
    else .ok ((groupOctets a b c 0).take 2)
  | (_, a) :: (_, b) :: (_, c) :: (_, d) :: _ => .ok (groupOctets a b c d)

/-- All groups but the last have no padding. -/
def decodeFrom (start : Nat) : List UInt8 → Except DecodeError (List UInt8)
  | a :: b :: c :: d :: e :: rest => do
    let a ← valueAt a start
    let b ← valueAt b (start + 1)
    let c ← valueAt c (start + 2)
    let d ← valueAt d (start + 3)
    let octets ← decodeFrom (start + 4) (e :: rest)
    return groupOctets a b c d ++ octets
  | tail => decodeTail start tail

def decode (text : List UInt8) : Except DecodeError (List UInt8) :=
  decodeFrom 0 text

end PhraseKey.Base64
