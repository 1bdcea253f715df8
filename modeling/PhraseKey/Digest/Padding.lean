import PhraseKey.Chunks
import PhraseKey.Octets

/-!
The padding of block hashes: a set bit, zeros, and the message length in bits at the end of the last
block.
-/

namespace PhraseKey.Digest

/-- Fill a message up to whole blocks of `block` octets, with its bit length in the last
`lengthOctets`. -/
def pad (block lengthOctets : Nat) (message : List UInt8) : List UInt8 :=
  let zeros := (block - (message.length + 1 + lengthOctets) % block) % block
  message ++ 0x80 :: List.replicate zeros 0 ++ bigEndian lengthOctets (8 * message.length)

/-- The padded message as blocks. -/
def blocks (block lengthOctets : Nat) (message : List UInt8) : List (List UInt8) :=
  let padded := pad block lengthOctets message
  chunks block (padded.length / block) padded

end PhraseKey.Digest
