/-!
Scanners: functions that take something off the front of a text, or fail and leave it untouched.
-/

namespace PhraseKey.Armor

abbrev Scanner := StateT (List UInt8) Option

namespace Scanner

/-- Take off exactly the given octets. -/
def literal (expected : List UInt8) : Scanner Unit := fun text =>
  if expected.isPrefixOf text then some ((), text.drop expected.length) else none

/-- Take off all octets up to the first without the property. -/
def span (p : UInt8 → Bool) : Scanner (List UInt8) := fun text =>
  some (text.takeWhile p, text.dropWhile p)

/-- What is in front of the first occurrence of the pattern, and the text from there on. -/
def splitBefore? (pattern : List UInt8) : List UInt8 → Option (List UInt8 × List UInt8)
  | [] => if pattern = [] then some ([], []) else none
  | octet :: rest =>
    if pattern.isPrefixOf (octet :: rest) then some ([], octet :: rest)
    else (splitBefore? pattern rest).map fun (skipped, found) => (octet :: skipped, found)

/-- Take off what is in front of the first occurrence of the pattern, which has to occur. -/
def before (pattern : List UInt8) : Scanner (List UInt8) :=
  splitBefore? pattern

/-- Succeed at the end of the text only. -/
def atEnd : Scanner Unit := fun text =>
  if text = [] then some ((), []) else none

/-- Repeat up to `limit` times, as long as the scanner succeeds. -/
def repeatUpTo {α : Type} (limit : Nat) (scanner : Scanner α) : Scanner (List α) := fun text =>
  match limit with
  | 0 => some ([], text)
  | limit + 1 =>
    match scanner text with
    | none => some ([], text)
    | some (value, rest) =>
      (repeatUpTo limit scanner rest).map fun (values, left) => (value :: values, left)

/-- Repeat a scanner that takes something off whenever it succeeds, as long as it does. -/
def many {α : Type} (scanner : Scanner α) : Scanner (List α) := fun text =>
  repeatUpTo text.length scanner text

end Scanner

end PhraseKey.Armor
