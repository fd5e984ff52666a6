/-!
# Arithmetic modulo a number

Powers, inverses and square roots of residues. Residues are natural numbers below the modulus.
-/

namespace PeerTrust.Modular

/-- The difference of two residues. -/
def sub (m a b : Nat) : Nat :=
  (a + (m - b % m)) % m

/-- The product of a start value and a power, by repeated squaring. -/
def powFrom (m acc base exponent : Nat) : Nat :=
  if exponent = 0 then acc % m
  else
    let acc := if exponent % 2 = 1 then acc * base % m else acc
    powFrom m acc (base * base % m) (exponent / 2)
  termination_by exponent

/-- A power of a residue. -/
def pow (m base exponent : Nat) : Nat :=
  powFrom m 1 (base % m) exponent

/-- The inverse of a residue modulo a prime. -/
def inverse (p a : Nat) : Nat :=
  pow p a (p - 2)

/-- An odd number and a count of factors two whose product with powers of two is `n`. -/
def oddPart : (fuel : Nat) → (n twos : Nat) → Nat × Nat
  | 0, n, twos => (n, twos)
  | fuel + 1, n, twos => if n % 2 = 0 ∧ n ≠ 0 then oddPart fuel (n / 2) (twos + 1) else (n, twos)

/-- The least residue from `n` on that is no square modulo a prime. -/
def nonSquare (p : Nat) : (fuel : Nat) → (n : Nat) → Nat
  | 0, n => n
  | fuel + 1, n => if pow p n ((p - 1) / 2) = p - 1 then n else nonSquare p fuel (n + 1)

/-- How often a residue must be squared to reach one. -/
def squaringsToOne (p : Nat) : (fuel : Nat) → (t count : Nat) → Nat
  | 0, _, count => count
  | fuel + 1, t, count => if t = 1 then count else squaringsToOne p fuel (t * t % p) (count + 1)

/-- The residue after squaring it `count` times. -/
def squarings (p : Nat) : (count : Nat) → Nat → Nat
  | 0, x => x
  | count + 1, x => squarings p count (x * x % p)

/-- The descent to a square root: `t` measures how far the square of `r` is from the target, and
each step removes at least one factor two from its order. -/
def rootDescent (p : Nat) : (fuel : Nat) → (twos c t r : Nat) → Nat
  | 0, _, _, _, r => r
  | fuel + 1, twos, c, t, r =>
    if t = 1 then r
    else
      let i := squaringsToOne p twos t 0
      let b := squarings p (twos - i - 1) c
      let c := b * b % p
      rootDescent p fuel i c (t * c % p) (r * b % p)

/-- A square root of a residue modulo an odd prime, if it has one. -/
def sqrt? (p a : Nat) : Option Nat :=
  let a := a % p
  if a = 0 then some 0
  else
    let (odd, twos) := oddPart (Nat.log2 p + 1) (p - 1) 0
    let z := nonSquare p 200 2
    let root := rootDescent p (twos + 1) twos (pow p z odd) (pow p a odd) (pow p a ((odd + 1) / 2))
    if root * root % p = a then some root else none

end PeerTrust.Modular
