import PhraseKey.Digest.Rotation
import PhraseKey.Digest.Square
import PhraseKey.Octets

/-!
BLAKE2b without a key, for digests of up to 64 octets. Digests of different sizes have nothing in
common, as the size goes into the first chaining value.
-/

namespace PhraseKey.Digest.Blake2b

/-- The fractional parts of the square roots of the first eight primes. -/
def initial : Quad × Quad :=
  (⟨0x6A09E667F3BCC908, 0xBB67AE8584CAA73B, 0x3C6EF372FE94F82B, 0xA54FF53A5F1D36F1⟩,
    ⟨0x510E527FADE682D1, 0x9B05688C2B3E6C1F, 0x1F83D9ABFB41BD6B, 0x5BE0CD19137E2179⟩)

/-- The orders in which the rounds take the words of a block. -/
def orders : List (List Nat) :=
  [[0, 1, 2, 3, 4, 5, 6, 7, 8, 9, 10, 11, 12, 13, 14, 15],
    [14, 10, 4, 8, 9, 15, 13, 6, 1, 12, 0, 2, 11, 7, 5, 3],
    [11, 8, 12, 0, 5, 2, 15, 13, 10, 14, 3, 6, 7, 1, 9, 4],
    [7, 9, 3, 1, 13, 12, 11, 14, 2, 6, 5, 10, 4, 0, 15, 8],
    [9, 0, 5, 7, 2, 4, 10, 15, 14, 1, 11, 12, 6, 8, 3, 13],
    [2, 12, 6, 10, 0, 11, 8, 3, 4, 13, 7, 5, 15, 14, 1, 9],
    [12, 5, 1, 15, 14, 13, 4, 10, 0, 7, 6, 3, 9, 2, 8, 11],
    [13, 11, 7, 14, 12, 1, 3, 9, 5, 0, 15, 4, 8, 6, 2, 10],
    [6, 15, 14, 9, 11, 3, 0, 8, 12, 2, 13, 7, 1, 4, 10, 5],
    [10, 2, 8, 4, 7, 6, 1, 5, 15, 11, 9, 14, 3, 12, 13, 0],
    [0, 1, 2, 3, 4, 5, 6, 7, 8, 9, 10, 11, 12, 13, 14, 15],
    [14, 10, 4, 8, 9, 15, 13, 6, 1, 12, 0, 2, 11, 7, 5, 3]]

/-- Octets in a block. -/
def blockSize : Nat := 128

/-- Mix four words with two words of the block. -/
def mixQuad (x y : UInt64) (q : Quad) : Quad :=
  let a := q.a + q.b + x
  let d := rotateRight64 (q.d ^^^ a) 32
  let c := q.c + d
  let b := rotateRight64 (q.b ^^^ c) 24
  let a := a + b + y
  let d := rotateRight64 (d ^^^ a) 16
  let c := c + d
  let b := rotateRight64 (b ^^^ c) 63
  ⟨a, b, c, d⟩

/-- A word of a block. Octets past the end of a short block are zero. -/
def word (block : List UInt8) (place : Nat) : UInt64 :=
  UInt64.ofNat (ofLittleEndian ((block.drop (8 * place)).take 8))

/-- One round, with the words of a block in the given order. -/
def mixRound (words : List UInt64) (square : Square) (order : List Nat) : Square :=
  let message (index : Nat) := words.getD (order.getD index 0) 0
  square.mix fun quad => mixQuad (message (2 * quad)) (message (2 * quad + 1))

/-- The chaining value: the upper half of the square, as two rows. -/
structure Chain where
  first : Quad
  second : Quad
  deriving DecidableEq

namespace Chain

def words (chain : Chain) : List UInt64 :=
  [chain.first.a, chain.first.b, chain.first.c, chain.first.d, chain.second.a, chain.second.b,
    chain.second.c, chain.second.d]

/-- The chaining value before the first block of a message with a digest of `size` octets. -/
def start (size : Nat) : Chain :=
  ⟨{ initial.1 with a := initial.1.a ^^^ 0x01010000 ^^^ UInt64.ofNat size }, initial.2⟩

/-- One block. `counted` octets of the message have been seen with this block, which may be the last
one. -/
def compress (chain : Chain) (counted : Nat) (isLast : Bool) (block : List UInt8) : Chain :=
  let h := chain.first
  let k := chain.second
  let u := initial.1
  let v := initial.2
  let low := UInt64.ofNat counted
  let high := UInt64.ofNat (counted / UInt64.size)
  let ending := if isLast then ~~~v.c else v.c
  let words := (List.range 16).map (word block)
  let square : Square := ⟨h.a, h.b, h.c, h.d, k.a, k.b, k.c, k.d, u.a, u.b, u.c, u.d, v.a ^^^ low,
    v.b ^^^ high, ending, v.d⟩
  let mixed := orders.foldl (mixRound words) square
  ⟨⟨h.a ^^^ mixed.w0 ^^^ mixed.w8, h.b ^^^ mixed.w1 ^^^ mixed.w9, h.c ^^^ mixed.w2 ^^^ mixed.w10,
      h.d ^^^ mixed.w3 ^^^ mixed.w11⟩,
    ⟨k.a ^^^ mixed.w4 ^^^ mixed.w12, k.b ^^^ mixed.w5 ^^^ mixed.w13, k.c ^^^ mixed.w6 ^^^ mixed.w14,
      k.d ^^^ mixed.w7 ^^^ mixed.w15⟩⟩

/-- A message of `full` whole blocks, `counted` octets into it, and a last block that may be shorter. -/
def absorb (chain : Chain) (full counted : Nat) (message : List UInt8) : Chain :=
  match full with
  | 0 => chain.compress (counted + message.length) true message
  | full + 1 =>
    let next := chain.compress (counted + blockSize) false (message.take blockSize)
    next.absorb full (counted + blockSize) (message.drop blockSize)

end Chain

/-- The digest of `size` octets. Only an empty message has an empty last block. -/
def digest (size : Nat) (message : List UInt8) (fits : size ≤ 64 := by decide) : Octets size :=
  let chain := (Chain.start size).absorb ((message.length - 1) / blockSize) 0 message
  ⟨(chain.words.flatMap fun word => littleEndian 8 word.toNat).take size, by
    simp [Chain.words, Nat.min_eq_left fits]⟩

end PhraseKey.Digest.Blake2b
