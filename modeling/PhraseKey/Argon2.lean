import PhraseKey.Argon2.Block
import PhraseKey.Argon2.Cost
import PhraseKey.Digest.Blake2b

/-!
Argon2id, version 0x13, with one lane, 64 octets of output and neither a secret nor associated data.
Every pass over the memory is cut into four slices. In the first two slices of the first pass the
blocks that are read follow from the costs alone, and from then on from the memory itself.
-/

namespace PhraseKey.Argon2

open Digest

/-- The number of an entry in the memory: the pass, the slice of the pass and the place in it. -/
structure Position where
  pass : Nat
  slice : Nat
  place : Nat
  deriving DecidableEq

namespace Cost

/-- Blocks in a slice. Memory beyond a multiple of four blocks is not used. -/
def sliceLength (cost : Cost) : Nat :=
  cost.memory.toNat / 4

def blockCount (cost : Cost) : Nat :=
  4 * cost.sliceLength

/-- All positions in the order in which they are filled. The first two blocks come from the hash of
the inputs. -/
def positions (cost : Cost) : List Position :=
  (List.range cost.passes.toNat).flatMap fun pass =>
    (List.range 4).flatMap fun slice =>
      let positions := (List.range cost.sliceLength).map fun place => ⟨pass, slice, place⟩
      if pass = 0 ∧ slice = 0 then positions.drop 2 else positions

end Cost

/-- The hash of the costs and of the inputs with their lengths. -/
def inputDigest (cost : Cost) (passphrase salt : List UInt8) : Octets 64 :=
  let number (value : Nat) := littleEndian 4 value
  let sized (octets : List UInt8) := number octets.length ++ octets
  Blake2b.digest 64 <| [number 1, number 64, number cost.memory.toNat, number cost.passes.toNat,
    number 0x13, number 2, sized passphrase, sized salt, sized [], sized []].flatten

/-- The first halves of a chain of `count` digests, and the whole of the next one. -/
def halves (count : Nat) (digest : Octets 64) : List UInt8 :=
  match count with
  | 0 => digest.toList
  | count + 1 => digest.toList.take 32 ++ halves count (Blake2b.digest 64 digest.toList)

/-- A digest of the size of a block. -/
def longDigest (message : List UInt8) : List UInt8 :=
  halves 30 (Blake2b.digest 64 (littleEndian 4 1024 ++ message))

/-- One of the first two blocks. -/
def firstBlock (digest : Octets 64) (place : Nat) : Block :=
  .decode (longDigest (digest.toList ++ littleEndian 4 place ++ littleEndian 4 0))

/-- The words that choose what is read in a slice that does not depend on the memory. Every 128 words
come from a counter. -/
def addressWords (cost : Cost) (slice : Nat) : List UInt64 :=
  (List.range ((cost.sliceLength + 127) / 128)).flatMap fun count =>
    let header := [0, 0, slice, cost.blockCount, cost.passes.toNat, 2, count + 1]
    let input := Block.ofPlaces fun place => UInt64.ofNat (header.getD place 0)
    (Block.compress .zero (.compress .zero input)).words

/-- The distance, counted back from the previous block, is chosen by the lower half of a word among
`area` blocks. Near blocks are more likely than far ones. -/
def distance (area : Nat) (word : UInt64) : Nat :=
  let low := word.toNat % UInt32.size
  area * (low * low / UInt32.size) / UInt32.size

/-- The block that is read for a position: one of all that are complete, other than the previous block
and the slice that is being overwritten. -/
def reference (cost : Cost) (position : Position) (word : UInt64) : Nat :=
  let slice := cost.sliceLength
  let area := (if position.pass = 0 then position.slice * slice else 3 * slice) + position.place - 1
  let start := if position.pass = 0 then 0 else (position.slice + 1) * slice
  (start + (area - 1 - distance area word)) % cost.blockCount

/-- Fill one position. The old block there is added to the new one. It is zero in the first pass. -/
def fill (cost : Cost) (addresses : Array UInt64) (memory : Array Block) (position : Position) :
    Array Block :=
  let column := position.slice * cost.sliceLength + position.place
  let block (index : Nat) := memory.getD index .zero
  let previous := block ((column + cost.blockCount - 1) % cost.blockCount)
  let word :=
    if position.pass = 0 ∧ position.slice < 2 then addresses.getD column 0
    else previous.rows[0].w0
  let next := Block.compress previous (block (reference cost position word))
  memory.setIfInBounds column (.xor next (block column))

/-- The memory after all passes. -/
def memory (cost : Cost) (digest : Octets 64) : Array Block :=
  let addresses := ((List.range 2).flatMap fun slice =>
    (addressWords cost slice).take cost.sliceLength).toArray
  let first := (Array.replicate cost.blockCount Block.zero).setIfInBounds 0 (firstBlock digest 0)
  let start := first.setIfInBounds 1 (firstBlock digest 1)
  cost.positions.foldl (fill cost addresses) start

/-- The output of a run with checked costs. -/
def output (cost : Cost) (passphrase salt : List UInt8) : Octets 64 :=
  let blocks := memory cost (inputDigest cost passphrase salt)
  let last := blocks.getD (cost.blockCount - 1) .zero
  Blake2b.digest 64 (littleEndian 4 64 ++ last.encode)

/-- The 64 octets of a passphrase and a salt, unless the costs or one of the two are refused. -/
def derive (cost : Cost) (passphrase salt : List UInt8) : Except Fault (Octets 64) := do
  check cost passphrase salt
  return output cost passphrase salt

end PhraseKey.Argon2
