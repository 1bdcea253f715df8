/-!
UTF-8 text from octets, strictly and with replacement. The replacing reading looks at one octet at a
time and remembers how many continuation octets are owed and the range the next one may lie in, so a
truncated or forbidden sequence is given up at the first octet that rules it out.
-/

namespace PhraseKey.Text

/-- The text an octet string encodes, if it is valid UTF-8. -/
def ofUtf8? (octets : List UInt8) : Option String :=
  String.fromUTF8? ⟨octets.toArray⟩

/-- The octets of a text. -/
def toUtf8 (text : String) : List UInt8 :=
  text.toUTF8.data.toList

/-- The state between two octets: how many continuation octets are owed, the value gathered so far
and the range of the next octet. Nothing is owed between characters. -/
structure Pending where
  owed : Nat
  value : Nat
  low : UInt8
  high : UInt8

namespace Pending

def idle : Pending := ⟨0, 0, 0x80, 0xBF⟩

end Pending

/-- The replacement character, U+FFFD. -/
def replacement : Char := Char.ofNat 0xFFFD

/-- The first octet of a character: what can be written at once, and what is then owed. -/
def lead (octet : UInt8) : List Char × Pending :=
  let bits (mask : UInt8) := (octet &&& mask).toNat
  if octet < 0x80 then ([Char.ofNat octet.toNat], .idle)
  else if octet < 0xC2 then ([replacement], .idle)
  else if octet < 0xE0 then ([], ⟨1, bits 0x1F, 0x80, 0xBF⟩)
  else if octet = 0xE0 then ([], ⟨2, bits 0x0F, 0xA0, 0xBF⟩)
  else if octet = 0xED then ([], ⟨2, bits 0x0F, 0x80, 0x9F⟩)
  else if octet < 0xF0 then ([], ⟨2, bits 0x0F, 0x80, 0xBF⟩)
  else if octet = 0xF0 then ([], ⟨3, bits 0x07, 0x90, 0xBF⟩)
  else if octet < 0xF4 then ([], ⟨3, bits 0x07, 0x80, 0xBF⟩)
  else if octet = 0xF4 then ([], ⟨3, bits 0x07, 0x80, 0x8F⟩)
  else ([replacement], .idle)

/-- An octet that does not continue the pending character starts a new one, after one replacement
for all that was given up. -/
def lossyFrom (pending : Pending) : List UInt8 → List Char
  | [] => if pending.owed = 0 then [] else [replacement]
  | octet :: rest =>
    match pending.owed with
    | 0 =>
      let (written, next) := lead octet
      written ++ lossyFrom next rest
    | owed + 1 =>
      if pending.low ≤ octet ∧ octet ≤ pending.high then
        let value := pending.value * 64 + (octet &&& 0x3F).toNat
        if owed = 0 then Char.ofNat value :: lossyFrom .idle rest
        else lossyFrom ⟨owed, value, 0x80, 0xBF⟩ rest
      else
        let (written, next) := lead octet
        replacement :: written ++ lossyFrom next rest

/-- The text of an octet string, with one replacement character for each longest run of octets that
starts a character and cannot be completed. -/
def lossy (octets : List UInt8) : String :=
  String.ofList (lossyFrom .idle octets)

end PhraseKey.Text
