import PhraseKey.Curve25519.Field
import PhraseKey.Digest.Sha512

/-!
Ed25519 signatures: points on the twisted Edwards curve in extended coordinates, the expansion of a
32 octet seed, and deterministic signing.
-/

namespace PhraseKey.Ed25519

open Curve25519

/-- Projective coordinates `x = X / Z`, `y = Y / Z` with `T = X Y / Z`. -/
structure Point where
  x : FieldElement
  y : FieldElement
  z : FieldElement
  t : FieldElement

/-- The curve constant `-121665 / 121666`. -/
def curveConstant : FieldElement :=
  -121665 * FieldElement.inverse 121666

/-- The order of the base point. -/
def order : Nat := (1 <<< 252) + 27742317777372353535851937790883648493

namespace Point

def identity : Point := ⟨0, 1, 1, 0⟩

/-- The point with second coordinate `4 / 5` and even first coordinate. -/
def base : Point :=
  let x := 15112221349535400772501151409588531511454012693041857206046113283949847762202
  let y := 46316835694926478169428394003475163141307993866256225615783033603165251855960
  ⟨x, y, 1, x * y⟩

/-- The addition law, which has no exceptions on this curve. -/
def add (p q : Point) : Point :=
  let a := (p.y - p.x) * (q.y - q.x)
  let b := (p.y + p.x) * (q.y + q.x)
  let c := 2 * curveConstant * p.t * q.t
  let d := 2 * p.z * q.z
  let e := b - a
  let f := d - c
  let g := d + c
  let h := b + a
  ⟨e * f, g * h, f * g, e * h⟩

def double (p : Point) : Point :=
  let a := p.x * p.x
  let b := p.y * p.y
  let c := 2 * p.z * p.z
  let h := a + b
  let e := h - (p.x + p.y) * (p.x + p.y)
  let g := a - b
  let f := c + g
  ⟨e * f, g * h, f * g, e * h⟩

/-- The multiple of the base point by the lowest `bits` bits of a scalar. -/
def baseMultiple (bits scalar : Nat) : Point :=
  match bits with
  | 0 => identity
  | bits + 1 =>
    let half := (baseMultiple bits (scalar / 2)).double
    if scalar % 2 = 1 then half.add base else half

/-- The second coordinate, with the parity of the first in the highest bit. -/
def encode (p : Point) : Octets 32 :=
  let inverse := p.z.inverse
  let x := p.x * inverse
  let y := p.y * inverse
  ⟨littleEndian 32 (y.val + (x.val % 2) <<< 255), by simp⟩

end Point

/-- What a seed expands to: the secret scalar, and the secret part of every nonce. -/
structure Expanded where
  scalar : Nat
  nonceKey : Octets 32

def expand (seed : Octets 32) : Expanded :=
  let digest : Octets (32 + 32) := Digest.Sha512.digest seed.toList
  ⟨ofLittleEndian (clamp digest.front).toList, digest.back⟩

def publicKey (seed : Octets 32) : Octets 32 :=
  (Point.baseMultiple 255 (expand seed).scalar).encode

/-- A digest of the concatenated parts as a scalar. -/
def scalarDigest (parts : List (List UInt8)) : Nat :=
  ofLittleEndian (Digest.Sha512.digest parts.flatten).toList % order

/-- The signature of a message: the encoded nonce point, then the response scalar. -/
def sign (seed : Octets 32) (message : List UInt8) : Octets 64 :=
  let expanded := expand seed
  let nonce := scalarDigest [expanded.nonceKey.toList, message]
  let commitment := (Point.baseMultiple 255 nonce).encode
  let challenge := scalarDigest [commitment.toList, (publicKey seed).toList, message]
  let response := (nonce + challenge * expanded.scalar) % order
  ⟨commitment.toList ++ littleEndian 32 response, by simp⟩

end PhraseKey.Ed25519
