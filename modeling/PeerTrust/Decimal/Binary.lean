/-!
# Numbers of binary floating point

Nonnegative numbers m · 2^q with at most 53 bits, and the rounding of a ratio to the nearest of them.
A tie goes to the even one; a ratio beyond the greatest has no nearest.
-/

namespace PeerTrust.Decimal

/-- The number m · 2^q. -/
structure Binary where
  m : Nat
  q : Int
  deriving DecidableEq, Repr

namespace Binary

/-- The least exponent. -/
def leastExponent : Int := -1074

/-- A ratio as numerator and denominator times a power of two. -/
def scaled (num den : Nat) (q : Int) : Nat × Nat :=
  if 0 ≤ q then (num, den * Nat.pow 2 q.toNat) else (num * Nat.pow 2 (-q).toNat, den)

/-- The quotient of two numbers rounded to the nearest, a tie to the even. -/
def roundDiv (num den : Nat) : Nat :=
  let d := num / den
  let r := num % den
  if 2 * r < den then d
  else if 2 * r = den then d + d % 2
  else d + 1

/-- The exponent at which a ratio has 53 bits, or the least one. -/
def exponentFor (num den : Nat) : Int :=
  let guess := (Nat.log2 num : Int) - Nat.log2 den - 53
  let (n, d) := scaled num den guess
  let exponent := if Nat.pow 2 53 * d ≤ n then guess + 1 else guess
  max leastExponent exponent

/-- The number nearest to a ratio. -/
def ofRatio? (num den : Nat) : Option Binary :=
  if num = 0 then some ⟨0, leastExponent⟩
  else
    let q := exponentFor num den
    let (n, d) := scaled num den q
    let m := roundDiv n d
    if (0 ≤ q ∧ Nat.pow 2 1024 ≤ m * Nat.pow 2 q.toNat) then none else some ⟨m, q⟩

/-- The number as numerator and denominator. -/
def ratio (x : Binary) : Nat × Nat :=
  if 0 ≤ x.q then (x.m * Nat.pow 2 x.q.toNat, 1) else (x.m, Nat.pow 2 (-x.q).toNat)

/-- The rounded product. -/
def mul? (x y : Binary) : Option Binary :=
  ofRatio? (x.ratio.1 * y.ratio.1) (x.ratio.2 * y.ratio.2)

/-- The rounded quotient. -/
def div? (x y : Binary) : Option Binary :=
  ofRatio? (x.ratio.1 * y.ratio.2) (x.ratio.2 * y.ratio.1)

/-- The number nearest to a power of ten. -/
def powerOfTen (n : Nat) : Binary :=
  (ofRatio? (Nat.pow 10 n) 1).getD ⟨0, leastExponent⟩

/-- A significand times a power of ten in steps of rounded arithmetic: one product or quotient by
a rounded power of ten, after quotients by 10^308 while the exponent lies further below. The
exponent rises by 308 in each step, so `fuel` steps suffice when it is at least a 308th of it. -/
def ofDecimal? : (fuel : Nat) → (x : Binary) → (exponent : Int) → Option Binary
  | 0, x, _ => some x
  | fuel + 1, x, exponent =>
    if 0 ≤ exponent then
      if exponent ≤ 308 then x.mul? (powerOfTen exponent.toNat)
      else if x.m = 0 then some x
      else none
    else if -308 ≤ exponent then x.div? (powerOfTen (-exponent).toNat)
    else if x.m = 0 then some x
    else (x.div? (powerOfTen 308)).bind fun x => ofDecimal? fuel x (exponent + 308)

end Binary

end PeerTrust.Decimal
