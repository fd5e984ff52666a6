import PeerTrust.Bytes
import PeerTrust.Curve.Modular

/-!
# Curves in short Weierstrass form

Points of y² = x³ + a·x + b over a prime field, their octet forms, and sums of multiples. Sums are
taken in Jacobian coordinates, in which a point (X, Y, Z) stands for (X / Z², Y / Z³) and Z = 0 for
the point at infinity.
-/

namespace PeerTrust.Curve

/-- A curve with a base point of known order. -/
structure Weierstrass where
  p : Nat
  a : Nat
  b : Nat
  baseX : Nat
  baseY : Nat
  order : Nat
  cofactor : Nat
  deriving DecidableEq, Repr

/-- A point of a curve. -/
inductive Point where
  | infinity
  | affine (x y : Nat)
  deriving DecidableEq, Repr

/-- A point in Jacobian coordinates. -/
structure Jacobian where
  x : Nat
  y : Nat
  z : Nat

namespace Weierstrass

/-- How many octets a field element takes. -/
def fieldSize (c : Weierstrass) : Nat :=
  Bytes.sizeOf c.p

/-- The base point. -/
def base (c : Weierstrass) : Point :=
  .affine c.baseX c.baseY

/-- The right side of the curve equation. -/
def rhs (c : Weierstrass) (x : Nat) : Nat :=
  (x * x * x + c.a * x + c.b) % c.p

/-- Whether coordinates lie in the field and on the curve. -/
def holds (c : Weierstrass) (x y : Nat) : Bool :=
  x < c.p && y < c.p && y * y % c.p == c.rhs x

/-- Twice a point. -/
def double (c : Weierstrass) (q : Jacobian) : Jacobian :=
  let p := c.p
  let yy := q.y * q.y % p
  let s := 4 * q.x * yy % p
  let zz := q.z * q.z % p
  let m := (3 * q.x * q.x + c.a * (zz * zz % p)) % p
  let x := Modular.sub p (m * m) (2 * s)
  let y := Modular.sub p (m * Modular.sub p s x) (8 * (yy * yy % p))
  ⟨x, y, 2 * q.y * q.z % p⟩

/-- The sum of two points. -/
def add (c : Weierstrass) (q r : Jacobian) : Jacobian :=
  if q.z = 0 then r
  else if r.z = 0 then q
  else
    let p := c.p
    let qzz := q.z * q.z % p
    let rzz := r.z * r.z % p
    let u₁ := q.x * rzz % p
    let u₂ := r.x * qzz % p
    let s₁ := q.y * (rzz * r.z % p) % p
    let s₂ := r.y * (qzz * q.z % p) % p
    let h := Modular.sub p u₂ u₁
    let w := Modular.sub p s₂ s₁
    if h = 0 then
      if w = 0 then c.double q else ⟨1, 1, 0⟩
    else
      let hh := h * h % p
      let hhh := h * hh % p
      let v := u₁ * hh % p
      let x := Modular.sub p (w * w) (hhh + 2 * v)
      let y := Modular.sub p (w * Modular.sub p v x) (s₁ * hhh)
      ⟨x, y, q.z * r.z % p * h % p⟩

/-- A point in Jacobian coordinates. -/
def jacobian : Point → Jacobian
  | .infinity => ⟨1, 1, 0⟩
  | .affine x y => ⟨x, y, 1⟩

/-- The point that Jacobian coordinates stand for. -/
def point (c : Weierstrass) (q : Jacobian) : Point :=
  if q.z = 0 then .infinity
  else
    let i := Modular.inverse c.p q.z
    let ii := i * i % c.p
    .affine (q.x * ii % c.p) (q.y * (ii * i % c.p) % c.p)

/-- The sum of two multiples, from the highest bit of the two factors down. -/
def combine (c : Weierstrass) (m n : Nat) (q r : Jacobian) : (bits : Nat) → Jacobian
  | 0 => ⟨1, 1, 0⟩
  | bits + 1 =>
    let acc := c.double (combine c (m / 2) (n / 2) q r bits)
    let acc := if m % 2 = 1 then c.add acc q else acc
    if n % 2 = 1 then c.add acc r else acc

/-- The sum of a multiple of one point and a multiple of another. -/
def sumOfMultiples (c : Weierstrass) (m : Nat) (q : Point) (n : Nat) (r : Point) : Point :=
  c.point (c.combine m n (jacobian q) (jacobian r) (Nat.log2 (max m n) + 1))

/-- Reads a point: a zero octet for infinity, one coordinate with the parity of the other, or both
coordinates with or without the parity once more. Coordinates have the size of the field. -/
def point? (c : Weierstrass) (octets : Bytes) : Option Point :=
  let size := c.fieldSize
  match octets with
  | [] => none
  | form :: rest =>
    if form = 0 then if rest.isEmpty then some .infinity else none
    else if form = 2 ∨ form = 3 then
      if rest.length = size then
        let x := Bytes.toNat rest
        if x < c.p then
          (Modular.sqrt? c.p (c.rhs x)).bind fun y =>
            let y := if y % 2 = form.toNat % 2 then y else Modular.sub c.p 0 y
            if y % 2 = form.toNat % 2 then some (.affine x y) else none
        else none
      else none
    else if form = 4 ∨ form = 6 ∨ form = 7 then
      if rest.length = 2 * size then
        let x := Bytes.toNat (rest.take size)
        let y := Bytes.toNat (rest.drop size)
        if c.holds x y ∧ (form = 4 ∨ y % 2 = form.toNat % 2) then some (.affine x y) else none
      else none
    else none

/-- Writes a point in the form that a first octet names, its parity bit left aside. -/
def writePoint (c : Weierstrass) (form : UInt8) : Point → Bytes
  | .infinity => [0]
  | .affine x y =>
    let xs := Bytes.ofNat c.fieldSize x
    let parity : UInt8 := if y % 2 = 1 then 1 else 0
    if form = 2 ∨ form = 3 then (2 + parity) :: xs
    else if form = 6 ∨ form = 7 then (6 + parity) :: xs ++ Bytes.ofNat c.fieldSize y
    else 4 :: xs ++ Bytes.ofNat c.fieldSize y

end Weierstrass

end PeerTrust.Curve
