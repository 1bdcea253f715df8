/-!
Rotations of machine words, by less than the word's width and more than nothing.
-/

namespace PhraseKey.Digest

def rotateLeft32 (word count : UInt32) : UInt32 :=
  word <<< count ||| word >>> (32 - count)

def rotateRight32 (word count : UInt32) : UInt32 :=
  word >>> count ||| word <<< (32 - count)

def rotateRight64 (word count : UInt64) : UInt64 :=
  word >>> count ||| word <<< (64 - count)

end PhraseKey.Digest
