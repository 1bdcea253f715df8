import PhraseKey.Curve25519.Field

/-!
X25519 public keys: the multiple of the base point by a clamped scalar, on the Montgomery curve and
with first coordinates only.
-/

namespace PhraseKey.X25519

open Curve25519

/-- The first coordinates, as fractions, of a multiple of the base point and of the next multiple. -/
structure Rung where
  x : FieldElement
  z : FieldElement
  nextX : FieldElement
  nextZ : FieldElement

/-- The first coordinate of the base point. -/
def base : FieldElement := 9

namespace Rung

/-- The point at infinity and the base point. -/
def first : Rung := ⟨1, 0, base, 1⟩

/-- The sum of two points that differ by the base point. -/
def sum (r : Rung) : FieldElement × FieldElement :=
  let a := (r.nextX - r.nextZ) * (r.x + r.z)
  let b := (r.nextX + r.nextZ) * (r.x - r.z)
  ((a + b) * (a + b), base * ((a - b) * (a - b)))

def double (x z : FieldElement) : FieldElement × FieldElement :=
  let a := (x + z) * (x + z)
  let b := (x - z) * (x - z)
  let c := a - b
  (a * b, c * (a + 121665 * c))

/-- From `k` and `k + 1` to `2 k` and `2 k + 1`, or one more. -/
def climb (r : Rung) (odd : Bool) : Rung :=
  let (sumX, sumZ) := r.sum
  if odd then
    let (x, z) := double r.nextX r.nextZ
    ⟨sumX, sumZ, x, z⟩
  else
    let (x, z) := double r.x r.z
    ⟨x, z, sumX, sumZ⟩

end Rung

/-- The rung of the lowest `bits` bits of a scalar. -/
def ladder (bits scalar : Nat) : Rung :=
  match bits with
  | 0 => .first
  | bits + 1 => (ladder bits (scalar / 2)).climb (scalar % 2 == 1)

/-- The public key of a secret, which is clamped again on the way. -/
def publicKey (secret : Octets 32) : Octets 32 :=
  let rung := ladder 255 (ofLittleEndian (clamp secret).toList)
  ⟨littleEndian 32 (rung.x * rung.z.inverse).val, by simp⟩

end PhraseKey.X25519
