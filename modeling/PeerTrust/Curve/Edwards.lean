import PeerTrust.Bytes
import PeerTrust.Curve.Modular

/-!
# Curves in Edwards form

Points of a·x² + y² = 1 + d·x²·y² over a prime field, their octet forms, and sums of multiples.
Sums are taken in projective coordinates, in which a point (X, Y, Z) stands for (X / Z, Y / Z). For
the curves here the addition formula holds for every pair of points.
-/

namespace PeerTrust.Curve

/-- A curve with a base point of known order. -/
structure Edwards where
  p : Nat
  a : Nat
  d : Nat
  baseX : Nat
  baseY : Nat
  order : Nat
  /-- How many octets spell a point. -/
  size : Nat
  deriving DecidableEq, Repr

/-- A point in projective coordinates. -/
structure Projective where
  x : Nat
  y : Nat
  z : Nat

namespace Edwards

/-- The neutral point. -/
def neutral : Projective := ⟨0, 1, 1⟩

/-- The base point. -/
def base (c : Edwards) : Projective := ⟨c.baseX, c.baseY, 1⟩

/-- The sum of two points. -/
def add (c : Edwards) (q r : Projective) : Projective :=
  let p := c.p
  let z := q.z * r.z % p
  let zz := z * z % p
  let xx := q.x * r.x % p
  let yy := q.y * r.y % p
  let e := c.d * xx % p * yy % p
  let f := Modular.sub p zz e
  let g := (zz + e) % p
  let cross := Modular.sub p ((q.x + q.y) * (r.x + r.y)) (xx + yy)
  ⟨z * f % p * cross % p, z * g % p * Modular.sub p yy (c.a * xx) % p, f * g % p⟩

/-- The point on the other side. -/
def negate (c : Edwards) (q : Projective) : Projective :=
  ⟨Modular.sub c.p 0 q.x, q.y, q.z⟩

/-- The sum of two multiples, from the highest bit of the two factors down. -/
def combine (c : Edwards) (m n : Nat) (q r : Projective) : (bits : Nat) → Projective
  | 0 => neutral
  | bits + 1 =>
    let acc := combine c (m / 2) (n / 2) q r bits
    let acc := c.add acc acc
    let acc := if m % 2 = 1 then c.add acc q else acc
    if n % 2 = 1 then c.add acc r else acc

/-- The sum of a multiple of one point and a multiple of another. -/
def sumOfMultiples (c : Edwards) (m : Nat) (q : Projective) (n : Nat) (r : Projective) :
    Projective :=
  c.combine m n q r (Nat.log2 (max m n) + 1)

/-- The sign bit of the octets of a point. -/
def signBit (octets : Bytes) : Nat :=
  (octets.getLast?.getD 0).toNat / 128

/-- Reads a point: the second coordinate, least octet first, and the parity of the first coordinate
in the top bit. -/
def point? (c : Edwards) (octets : Bytes) : Option Projective :=
  if octets.length = c.size then
    let p := c.p
    let sign := signBit octets
    let y := (Bytes.toNatLittle octets - sign * Nat.pow 2 (8 * c.size - 1)) % p
    let yy := y * y % p
    let square := Modular.sub p yy 1 * Modular.inverse p (Modular.sub p (c.d * yy) c.a) % p
    (Modular.sqrt? p square).map fun x =>
      ⟨if x % 2 = sign then x else Modular.sub p 0 x, y, 1⟩
  else none

/-- Writes a point. -/
def writePoint (c : Edwards) (q : Projective) : Bytes :=
  let i := Modular.inverse c.p q.z
  let x := q.x * i % c.p
  let y := q.y * i % c.p
  (Bytes.ofNat c.size (y + x % 2 * Nat.pow 2 (8 * c.size - 1))).reverse

end Edwards

/-- The curve over the field of 2^255 - 19 elements. -/
def edwards25519 : Edwards :=
  ⟨Nat.pow 2 255 - 19, Nat.pow 2 255 - 20,
   0x52036cee2b6ffe738cc740797779e89800700a4d4141d8ab75eb4dca135978a3,
   0x216936d3cd6e53fec0a4e231fdd6dc5c692cc7609525a7b2c9562d608f25d51a,
   0x6666666666666666666666666666666666666666666666666666666666666658,
   Nat.pow 2 252 + 27742317777372353535851937790883648493, 32⟩

/-- The curve over the field of 2^448 - 2^224 - 1 elements. -/
def edwards448 : Edwards :=
  ⟨Nat.pow 2 448 - Nat.pow 2 224 - 1, 1, Nat.pow 2 448 - Nat.pow 2 224 - 1 - 39081,
   0x4f1970c66bed0ded221d15a622bf36da9e146570470f1767ea6de324a3d3a46412ae1af72ab66511433b80e18b00938e2626a82bc70cc05e,
   0x693f46716eb6bc248876203756c9c7624bea73736ca3984087789c1e05a0c2d73ad3ff1ce67c39c4fdbd132c4ed7c8ad9808795bf230fa14,
   Nat.pow 2 446 - 13818066809895115352007386748515426880336692474882178609894547503885, 57⟩

end PeerTrust.Curve
