import PhraseKey.Error
import PhraseKey.Text.Utf8

/-!
Armored blocks: their types, the lines around them and the headers they may carry.
-/

namespace PhraseKey.Armor

/-- What a block says it holds. -/
inductive BlockType where
  | publicKey
  | privateKey
  | message
  | signature
  deriving DecidableEq

namespace BlockType

def title : BlockType → String
  | publicKey => "PGP PUBLIC KEY BLOCK"
  | privateKey => "PGP PRIVATE KEY BLOCK"
  | message => "PGP MESSAGE"
  | signature => "PGP SIGNATURE"

/-- The type for a stream of packets, by its first packet. -/
def ofStream (stream : List UInt8) : Except Error BlockType :=
  match stream with
  | [] => .error .emptyStream
  | first :: _ =>
    let tag := Tag.ofHeaderOctet first
    .ok <|
      if tag = .signature then .signature
      else if tag = .secretKey then .privateKey
      else if tag = .publicKey then .publicKey
      else .message

end BlockType

/-- Lines of text with a key and a value each, in order of appearance. -/
structure Headers where
  lines : List (String × String)
  deriving DecidableEq

namespace Headers

/-- The different keys. -/
def keys (headers : Headers) : List String :=
  (headers.lines.map Prod.fst).eraseDups

/-- All values of a key, in order. -/
def values (headers : Headers) (key : String) : List String :=
  headers.lines.filterMap fun (k, value) => if k = key then some value else none

end Headers

/-- What a block holds. -/
structure Block where
  type : BlockType
  headers : Headers
  data : List UInt8
  deriving DecidableEq

/-- The five hyphens at both ends of the first and the last line. -/
def rule : List UInt8 := Text.toUtf8 "-----"

def beginWord : List UInt8 := Text.toUtf8 "BEGIN "

def endWord : List UInt8 := Text.toUtf8 "END "

def lineFeed : List UInt8 := [10]

def carriageReturnLineFeed : List UInt8 := [13, 10]

end PhraseKey.Armor
