import PhraseKey.Digest.Padding

/-!
The SHA-2 hashes. All members of the family share the schedule and the round, and differ in the word,
the rotation amounts and the constants.
-/

namespace PhraseKey.Digest.Sha2

/-- The eight chaining words. -/
structure State (Word : Type) where
  a : Word
  b : Word
  c : Word
  d : Word
  e : Word
  f : Word
  g : Word
  h : Word

/-- What tells one member of the family from another. There are as many rounds as
constants. -/
structure Variant (Word : Type) where
  /-- Octets in a word. A block has sixteen words. -/
  width : Nat
  ofNat : Nat → Word
  toNat : Word → Nat
  scheduleSigma0 : Word → Word
  scheduleSigma1 : Word → Word
  roundSigma0 : Word → Word
  roundSigma1 : Word → Word
  initial : State Word
  constants : List Word

variable {Word : Type} [Add Word] [XorOp Word] [AndOp Word] [Complement Word]

/-- Add `count` words to the front of a schedule that is held latest word first. -/
def extend (variant : Variant Word) : Nat → List Word → List Word
  | 0, words => words
  | count + 1, words =>
    let back (distance : Nat) := words.getD (distance - 1) (variant.ofNat 0)
    let next := variant.scheduleSigma1 (back 2) + back 7 + variant.scheduleSigma0 (back 15) + back 16
    extend variant count (next :: words)

/-- The words of a block and those that follow from them, one for each round. -/
def schedule (variant : Variant Word) (block : List UInt8) : List Word :=
  let words := (chunks variant.width 16 block).map fun word => variant.ofNat (ofBigEndian word)
  (extend variant (variant.constants.length - 16) words.reverse).reverse

def round (variant : Variant Word) (s : State Word) (constant word : Word) : State Word :=
  let choice := (s.e &&& s.f) ^^^ (~~~s.e &&& s.g)
  let majority := (s.a &&& s.b) ^^^ (s.a &&& s.c) ^^^ (s.b &&& s.c)
  let first := s.h + variant.roundSigma1 s.e + choice + constant + word
  let second := variant.roundSigma0 s.a + majority
  ⟨first + second, s.a, s.b, s.c, s.d + first, s.e, s.f, s.g⟩

/-- One block: all rounds, and the old state added to the new. -/
def compress (variant : Variant Word) (s : State Word) (block : List UInt8) : State Word :=
  let t := (variant.constants.zip (schedule variant block)).foldl
    (fun t (constant, word) => round variant t constant word) s
  ⟨s.a + t.a, s.b + t.b, s.c + t.c, s.d + t.d, s.e + t.e, s.f + t.f, s.g + t.g, s.h + t.h⟩

def State.words (s : State Word) : List Word :=
  [s.a, s.b, s.c, s.d, s.e, s.f, s.g, s.h]

/-- The full digest, of eight words. -/
def digest (variant : Variant Word) (message : List UInt8) : Octets (8 * variant.width) :=
  let last := (blocks (16 * variant.width) (2 * variant.width) message).foldl (compress variant)
    variant.initial
  ⟨last.words.flatMap fun word => bigEndian variant.width (variant.toNat word), by
    simp [State.words]; omega⟩

end PhraseKey.Digest.Sha2
