import PeerTrust.Curve.Weierstrass
import PeerTrust.Signature.Hash

/-!
# Signatures of two numbers

A signature is a pair of numbers below the order of a group, in distinguished encoding. It fits when
the first number comes back from multiples of the base and of the key that the second number and
the digest determine; the group is that of a curve or of powers modulo a prime.
-/

namespace PeerTrust.Signature

open PeerTrust.Asn1 PeerTrust.X509

/-- The pair of numbers in a signature, which must be written in the one distinguished way. -/
def numberPair? (signature : Bytes) : Option (Nat × Nat) := do
  let (e, rest) ← Element.read signature
  match e.sequence? with
  | some [r, s] =>
    let a ← r.integer?
    let b ← s.integer?
    if rest.isEmpty ∧ 0 ≤ a ∧ 0 ≤ b
        ∧ writeSequence [writeNatural a.toNat, writeNatural b.toNat] = signature then
      some (a.toNat, b.toNat)
    else none
  | _ => none

/-- The leading bits of a digest as a number, as many as the order has. -/
def leadingBits (order : Nat) (digest : Bytes) : Nat :=
  Bytes.toNat digest / Nat.pow 2 (8 * digest.length - (Nat.log2 order + 1))

/-- The two factors that a signature and a digest determine. -/
def factors? (order : Nat) (r s : Nat) (digest : Bytes) : Option (Nat × Nat) :=
  if 0 < r ∧ r < order ∧ 0 < s ∧ s < order then
    let w := Modular.inverse order s
    some (leadingBits order digest * w % order, r * w % order)
  else none

/-- Whether a signature on a curve fits a message. -/
def ecdsaVerifies (curve : Curve.Weierstrass) (key : Curve.Point) (hash : HashName)
    (message signature : Bytes) : Bool :=
  match numberPair? signature with
  | none => false
  | some (r, s) =>
    match factors? curve.order r s (hash.digest message) with
    | none => false
    | some (u, v) =>
      match curve.sumOfMultiples u curve.base v key with
      | .affine x _ => x % curve.order == r
      | .infinity => false

/-- Whether a signature by powers modulo `p` fits a message. -/
def dsaVerifies (p q g key : Nat) (hash : HashName) (message signature : Bytes) : Bool :=
  let bits := Nat.log2 q + 1
  match numberPair? signature with
  | none => false
  | some (r, s) =>
    match factors? q r s (hash.digest message) with
    | none => false
    | some (u, v) =>
      (bits == 160 || bits == 224 || bits == 256) && p % 2 == 1 && Nat.log2 p < 10000
        && Modular.pow p g u * Modular.pow p key v % p % q == r

end PeerTrust.Signature
