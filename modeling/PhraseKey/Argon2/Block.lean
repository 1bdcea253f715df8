import PhraseKey.Chunks
import PhraseKey.Digest.Rotation
import PhraseKey.Digest.Square
import PhraseKey.Octets

/-!
The memory blocks of Argon2: 1024 octets in an eight by eight matrix of pairs of words, and the
compression of two blocks into one.
-/

namespace PhraseKey.Argon2

open Digest

/-- A block, as its eight rows of eight pairs of words. -/
structure Block where
  rows : Vector Square 8
  deriving DecidableEq

namespace Block

/-- The words of a block in their order. -/
def words (block : Block) : List UInt64 :=
  block.rows.toList.flatMap Square.words

/-- The block whose word at each place is given. -/
def ofPlaces (word : Nat → UInt64) : Block :=
  ⟨.ofFn fun row => .ofPlaces fun place => word (16 * row.val + place)⟩

def zero : Block := ofPlaces fun _ => 0

/-- The block that 1024 octets spell, each word with its least significant octet first. -/
def decode (octets : List UInt8) : Block :=
  let words := (chunks 8 128 octets).map fun piece => UInt64.ofNat (ofLittleEndian piece)
  ofPlaces fun place => words.getD place 0

def encode (block : Block) : List UInt8 :=
  block.words.flatMap fun word => littleEndian 8 word.toNat

def xorSquare (s t : Square) : Square :=
  ⟨s.w0 ^^^ t.w0, s.w1 ^^^ t.w1, s.w2 ^^^ t.w2, s.w3 ^^^ t.w3, s.w4 ^^^ t.w4, s.w5 ^^^ t.w5,
    s.w6 ^^^ t.w6, s.w7 ^^^ t.w7, s.w8 ^^^ t.w8, s.w9 ^^^ t.w9, s.w10 ^^^ t.w10, s.w11 ^^^ t.w11,
    s.w12 ^^^ t.w12, s.w13 ^^^ t.w13, s.w14 ^^^ t.w14, s.w15 ^^^ t.w15⟩

def xor (a b : Block) : Block :=
  ⟨a.rows.zipWith xorSquare b.rows⟩

/-- The sum of two words and twice the product of their lower halves. -/
def multiplyAdd (x y : UInt64) : UInt64 :=
  x + y + 2 * (x &&& 0xFFFFFFFF) * (y &&& 0xFFFFFFFF)

def mixQuad (q : Quad) : Quad :=
  let a := multiplyAdd q.a q.b
  let d := rotateRight64 (q.d ^^^ a) 32
  let c := multiplyAdd q.c d
  let b := rotateRight64 (q.b ^^^ c) 24
  let a := multiplyAdd a b
  let d := rotateRight64 (d ^^^ a) 16
  let c := multiplyAdd c d
  let b := rotateRight64 (b ^^^ c) 63
  ⟨a, b, c, d⟩

/-- Mix all rows, each as a square. -/
def mixRows (block : Block) : Block :=
  ⟨block.rows.map (Square.mix fun _ => mixQuad)⟩

/-- A pair of words of a row. -/
def pair (row : Square) : Fin 8 → UInt64 × UInt64
  | 0 => (row.w0, row.w1)
  | 1 => (row.w2, row.w3)
  | 2 => (row.w4, row.w5)
  | 3 => (row.w6, row.w7)
  | 4 => (row.w8, row.w9)
  | 5 => (row.w10, row.w11)
  | 6 => (row.w12, row.w13)
  | 7 => (row.w14, row.w15)

/-- The row of the given pairs. -/
def ofPairs (pairs : Fin 8 → UInt64 × UInt64) : Square :=
  let p0 := pairs 0
  let p1 := pairs 1
  let p2 := pairs 2
  let p3 := pairs 3
  let p4 := pairs 4
  let p5 := pairs 5
  let p6 := pairs 6
  let p7 := pairs 7
  ⟨p0.1, p0.2, p1.1, p1.2, p2.1, p2.2, p3.1, p3.2, p4.1, p4.2, p5.1, p5.2, p6.1, p6.2, p7.1, p7.2⟩

/-- Rows and columns of the matrix of pairs exchanged. -/
def transpose (block : Block) : Block :=
  ⟨.ofFn fun column => ofPairs fun row => pair block.rows[row] column⟩

/-- All rows are mixed, then all columns, and the sum of both blocks is added again. -/
def compress (a b : Block) : Block :=
  let sum := xor a b
  xor sum sum.mixRows.transpose.mixRows.transpose

end Block

end PhraseKey.Argon2
