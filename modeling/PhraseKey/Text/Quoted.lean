import PhraseKey.Text.Hidden

/-!
Text between double quotes, with everything that would not show or would end the quotes escaped.
-/

namespace PhraseKey.Text

/-- A code point in hexadecimal, without leading zeros. -/
def codePoint (c : Char) : String :=
  String.ofList (Nat.toDigits 16 c.toNat)

/-- Quotes, backslashes and the four common controls have escapes of their own. Any other hidden
character is written by its code point. The single quote stands as it is. -/
def escape (c : Char) : String :=
  if c = '"' then "\\\""
  else if c = '\\' then "\\\\"
  else if c = '\n' then "\\n"
  else if c = '\r' then "\\r"
  else if c = '\t' then "\\t"
  else if c.toNat = 0 then "\\0"
  else if isHidden c then "\\u\x7b" ++ codePoint c ++ "\x7d"
  else c.toString

def quoted (text : String) : String :=
  "\"" ++ String.join (text.toList.map escape) ++ "\""

end PhraseKey.Text
