import PhraseKey.Armor.Scanner
import PhraseKey.Armor.Write
import PhraseKey.Logged

/-!
Reading armor. Anything may stand in front of a block and behind it. Lines end with a line feed, with
or without a carriage return. The end of a header's key is looked for in the whole remaining text, so
a key is refused when it spans lines.
-/

namespace PhraseKey.Armor

open Scanner

def lineEnding : Scanner Unit :=
  literal lineFeed <|> literal carriageReturnLineFeed

/-- Blanks and tabs, and the end of the line. -/
def blankRest : Scanner Unit := do
  let _ ← span fun octet => octet == 32 || octet == 9
  lineEnding

def blockType : Scanner BlockType :=
  let titled (type : BlockType) : Scanner BlockType := do
    literal (Text.toUtf8 type.title)
    return type
  titled .publicKey <|> titled .privateKey <|> titled .message <|> titled .signature

def firstLine : Scanner BlockType := do
  literal rule
  literal beginWord
  let type ← blockType
  literal rule
  lineEnding
  return type

def lastLine : Scanner BlockType := do
  literal rule
  literal endWord
  let type ← blockType
  literal rule
  lineEnding <|> atEnd
  return type

/-- What is in front of a pattern, if that is not the next thing. -/
def someBefore (pattern : List UInt8) : Scanner (List UInt8) := do
  let found ← before pattern
  guard (found ≠ [])
  return found

/-- The key of a header: what is in front of a colon at the end of a line, or else in front of a colon
and a blank. -/
def headerKey : Scanner String := do
  let octets ← someBefore (58 :: carriageReturnLineFeed) <|> someBefore (58 :: lineFeed) <|>
    someBefore [58, 32]
  let key ← Text.ofUtf8? octets
  guard (10 ∉ octets)
  return key

/-- The value of a header: the line behind a blank, or nothing. -/
def headerValue : Scanner String :=
  (do
    literal [32]
    let octets ← span fun octet => octet != 10 && octet != 13
    let value ← Text.ofUtf8? octets
    lineEnding
    return value) <|>
  (do
    lineEnding
    return "")

def header : Scanner (String × String) := do
  let key ← headerKey
  literal [58]
  let value ← headerValue
  return (key, value)

/-- The alphabet and the padding. -/
def isBase64 (octet : UInt8) : Bool :=
  (Base64.value? octet).isSome || octet == Base64.pad

/-- A line of base64. Padding cannot come first, as it starts the checksum line. -/
def bodyLine : Scanner (List UInt8) := do
  let line ← span isBase64
  guard (line ≠ [] ∧ line.head? ≠ some Base64.pad)
  blankRest
  return line

def checksumText : Scanner (List UInt8) := do
  literal [Base64.pad]
  let line ← span isBase64
  guard (line ≠ [])
  blankRest
  return line

/-- The parts of a block, before any of them is decoded. -/
structure Envelope where
  type : BlockType
  headers : Headers
  body : List UInt8
  checksum : Option (List UInt8)
  lastType : BlockType
  deriving DecidableEq

/-- The first block of a text. What follows it is left. -/
def envelope : Scanner Envelope := do
  let _ ← before rule
  let type ← firstLine
  let headers ← many header
  blankRest
  let lines ← many bodyLine
  let checksum ← optional checksumText
  let lastType ← lastLine
  return ⟨type, ⟨headers⟩, lines.flatten, checksum, lastType⟩

/-- Fail unless the text of a checksum line stands for the checksum of the data. -/
def verifyChecksum (text data : List UInt8) : Except Error Unit := do
  let octets ← (Base64.decode text).mapError Error.base64
  if octets = checksumOctets data then return () else throw .armorChecksum

/-- The first block of a text. A checksum is looked at if there is one. -/
def read (text : List UInt8) : Logged Block := do
  match envelope text with
  | none => Logged.fail .armorWrappers
  | some (parts, _) =>
    if parts.type ≠ parts.lastType then
      Logged.fail .armorWrappers
    let data ← (Base64.decode parts.body).mapError Error.base64
    Logged.debug ("dearmored " ++ toString data.length ++ " bytes of " ++ parts.type.title)
    if let some checksum := parts.checksum then
      verifyChecksum checksum data
    return ⟨parts.type, parts.headers, data⟩

end PhraseKey.Armor
