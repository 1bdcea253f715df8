import PhraseKey.Armor.Block
import PhraseKey.Armor.Crc24
import PhraseKey.Chunks

/-!
Writing armor: the data in base64 in lines of 64 characters, and its checksum, between a first and a
last line.
-/

namespace PhraseKey.Armor

def lineLength : Nat := 64

/-- The checksum of data in three octets. -/
def checksumOctets (data : List UInt8) : List UInt8 :=
  bigEndian 3 (Crc24.checksum data).toNat

/-- The text in lines of full length and a last one that may be shorter. -/
def bodyLines (text : List UInt8) : List (List UInt8) :=
  chunks lineLength ((text.length + lineLength - 1) / lineLength) text

def checksumLine (data : List UInt8) : List UInt8 :=
  Base64.pad :: Base64.encode (checksumOctets data)

def beginLine (type : BlockType) : List UInt8 :=
  rule ++ beginWord ++ Text.toUtf8 type.title ++ rule

def endLine (type : BlockType) : List UInt8 :=
  rule ++ endWord ++ Text.toUtf8 type.title ++ rule

/-- The lines of a block without headers. -/
def blockLines (data : List UInt8) (type : BlockType) : List (List UInt8) :=
  beginLine type :: [] :: bodyLines (Base64.encode data) ++ [checksumLine data, endLine type]

/-- A block without headers. -/
def write (data : List UInt8) (type : BlockType) : List UInt8 :=
  (blockLines data type).flatMap (· ++ lineFeed)

/-- A stream of packets as a block, with the type of its first packet. -/
def ofStream (stream : List UInt8) : Except Error (List UInt8) := do
  let type ← BlockType.ofStream stream
  return write stream type

end PhraseKey.Armor
