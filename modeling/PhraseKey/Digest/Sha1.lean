import PhraseKey.Digest.Padding
import PhraseKey.Digest.Rotation

/-!
SHA-1 with counter-cryptanalysis. All known ways to build a collision follow one of a few disturbance
vectors: patterns of bits in which the expanded words of the two colliding blocks differ. For every
block, the other block that each vector allows is reconstructed and run backwards from a step at which
the two runs agree. If it reaches the same chaining value as the block itself, the block is half of a
collision, and the digest is withheld.
-/

namespace PhraseKey.Digest.Sha1

/-- The five chaining words. -/
structure State where
  a : UInt32
  b : UInt32
  c : UInt32
  d : UInt32
  e : UInt32
  deriving DecidableEq

namespace State

def initial : State :=
  ⟨0x67452301, 0xEFCDAB89, 0x98BADCFE, 0x10325476, 0xC3D2E1F0⟩

def add (s t : State) : State :=
  ⟨s.a + t.a, s.b + t.b, s.c + t.c, s.d + t.d, s.e + t.e⟩

def words (s : State) : List UInt32 :=
  [s.a, s.b, s.c, s.d, s.e]

end State

/-- What step `step` adds besides the word: its function of three words and its constant. -/
def mixture (step : Nat) (x y z : UInt32) : UInt32 :=
  if step < 20 then (x &&& y ||| ~~~x &&& z) + 0x5A827999
  else if step < 40 then (x ^^^ y ^^^ z) + 0x6ED9EBA1
  else if step < 60 then (x &&& y ||| x &&& z ||| y &&& z) + 0x8F1BBCDC
  else (x ^^^ y ^^^ z) + 0xCA62C1D6

def stepForward (s : State) (step : Nat × UInt32) : State :=
  ⟨rotateLeft32 s.a 5 + mixture step.1 s.b s.c s.d + s.e + step.2, s.a, rotateLeft32 s.b 30, s.c,
    s.d⟩

/-- The state before a step, from the state after it. -/
def stepBackward (s : State) (step : Nat × UInt32) : State :=
  let a := s.b
  let b := rotateRight32 s.c 30
  ⟨a, b, s.d, s.e, s.a - rotateLeft32 a 5 - mixture step.1 b s.d s.e - step.2⟩

/-- Words that follow from the sixteen before them, held latest first. -/
def extendForward : Nat → List UInt32 → List UInt32
  | 0, words => words
  | count + 1, words =>
    let back (distance : Nat) := words.getD (distance - 1) 0
    let next := rotateLeft32 (back 3 ^^^ back 8 ^^^ back 14 ^^^ back 16) 1
    extendForward count (next :: words)

/-- Every word behind the first five, with the corrections of the five before it. -/
def corrected : List UInt32 → List UInt32
  | back5 :: back4 :: back3 :: back2 :: back1 :: word :: words =>
    (word ^^^ rotateLeft32 back1 5 ^^^ back2 ^^^ rotateLeft32 (back3 ^^^ back4 ^^^ back5) 30) ::
      corrected (back4 :: back3 :: back2 :: back1 :: word :: words)
  | _ => []

/-- Words that the sixteen after them follow from, held earliest first. -/
def extendBackward : Nat → List UInt32 → List UInt32
  | 0, words => words
  | count + 1, words =>
    let ahead (distance : Nat) := words.getD (distance - 1) 0
    let previous := rotateRight32 (ahead 16) 1 ^^^ ahead 13 ^^^ ahead 8 ^^^ ahead 2
    extendBackward count (previous :: words)

/-- The eighty words of a block. -/
def schedule (block : List UInt8) : List UInt32 :=
  let words := (chunks 4 16 block).map fun word => UInt32.ofNat (ofBigEndian word)
  (extendForward 64 words.reverse).reverse

/-- The words of a run, each with its step. -/
def steps (words : List UInt32) : List (Nat × UInt32) :=
  (List.range 80).zip words

/-- The two shapes of disturbance vectors. -/
inductive Shape where
  | one
  | two
  deriving DecidableEq

/-- A disturbance vector, by its shape, the step its sixteen defining words start at, and the bit they
are rotated by. -/
structure Disturbance where
  shape : Shape
  start : Nat
  bit : UInt32

namespace Disturbance

/-- The last of the defining words has one bit. In the second shape the words one and three steps
after the start have the bit below it. -/
def core (vector : Disturbance) : List UInt32 :=
  let last : UInt32 := 1 <<< vector.bit
  let other : UInt32 := match vector.shape with
    | .one => 0
    | .two => 1 <<< ((vector.bit + 31) % 32)
  [0, other, 0, other, 0, 0, 0, 0, 0, 0, 0, 0, 0, 0, 0, last]

/-- The vector from five steps before the first to the last, earliest first. -/
def expanded (vector : Disturbance) : List UInt32 :=
  let forward := (extendForward (64 - vector.start) vector.core.reverse).reverse
  extendBackward (vector.start + 5) forward

/-- The differences of the eighty words: every disturbance and the five corrections after it. -/
def differences (vector : Disturbance) : List UInt32 :=
  corrected vector.expanded

/-- A step at which both runs agree: the last defining word is the first disturbance after more than
five steps without one. -/
def agreement (vector : Disturbance) : Nat :=
  vector.start + 15

end Disturbance

/-- The disturbance vectors that an attack can use. -/
def disturbances : List Disturbance :=
  [⟨.one, 43, 0⟩, ⟨.one, 44, 0⟩, ⟨.one, 45, 0⟩, ⟨.one, 46, 0⟩, ⟨.one, 46, 2⟩, ⟨.one, 47, 0⟩,
    ⟨.one, 47, 2⟩, ⟨.one, 48, 0⟩, ⟨.one, 48, 2⟩, ⟨.one, 49, 0⟩, ⟨.one, 49, 2⟩, ⟨.one, 50, 0⟩,
    ⟨.one, 50, 2⟩, ⟨.one, 51, 0⟩, ⟨.one, 51, 2⟩, ⟨.one, 52, 0⟩, ⟨.two, 45, 0⟩, ⟨.two, 46, 0⟩,
    ⟨.two, 46, 2⟩, ⟨.two, 47, 0⟩, ⟨.two, 48, 0⟩, ⟨.two, 49, 0⟩, ⟨.two, 49, 2⟩, ⟨.two, 50, 0⟩,
    ⟨.two, 50, 2⟩, ⟨.two, 51, 0⟩, ⟨.two, 51, 2⟩, ⟨.two, 52, 0⟩, ⟨.two, 53, 0⟩, ⟨.two, 54, 0⟩,
    ⟨.two, 55, 0⟩, ⟨.two, 56, 0⟩]

/-- The steps of agreement with the word differences of every vector. -/
def patterns : List (Nat × List UInt32) :=
  disturbances.map fun vector => (vector.agreement, vector.differences)

/-- The chaining value that a run reaches if it passes through `middle` before step `agreement`. -/
def resume (agreement : Nat) (middle : State) (words : List UInt32) : State :=
  let run := steps words
  let before := (run.take agreement).reverse.foldl stepBackward middle
  let after := (run.drop agreement).foldl stepForward middle
  before.add after

/-- One block: the next chaining value, and whether a different block would reach it too. -/
def compress (s : State) (block : List UInt8) : State × Bool :=
  let words := schedule block
  let run := steps words
  let result := s.add (run.foldl stepForward s)
  let collides := patterns.any fun (agreement, differences) =>
    let middle := (run.take agreement).foldl stepForward s
    resume agreement middle (words.zipWith (· ^^^ ·) differences) == result
  (result, collides)

/-- The next chaining value, unless the block is half of a collision. -/
def compress? (s : State) (block : List UInt8) : Option State :=
  let (result, collides) := compress s block
  if collides then none else some result

/-- The last chaining value, unless some block is half of a collision. -/
def chain (s : State) (blocks : List (List UInt8)) : Option State :=
  blocks.foldlM compress? s

/-- The digest, unless the message was built to collide with another. -/
def digest? (message : List UInt8) : Option (Octets 20) := do
  let last ← chain .initial (blocks 64 8 message)
  return ⟨last.words.flatMap fun word => bigEndian 4 word.toNat, by simp [State.words]⟩

end PhraseKey.Digest.Sha1
