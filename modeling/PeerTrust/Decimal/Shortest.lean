import PeerTrust.Decimal.Binary

/-!
# The shortest decimal text of a number

Of the decimals that round back to a number of binary floating point those with the fewest digits
are taken, and of these the nearest. The text is positional near one and scientific elsewhere.
-/

namespace PeerTrust.Decimal

/-- A decimal: `digits` times a power of ten. -/
structure Digits where
  digits : Nat
  exponent : Int
  deriving DecidableEq, Repr

/-- Compares a decimal with a multiple of a power of two: the two sides as naturals. -/
def sides (d : Nat) (e : Int) (n : Nat) (q : Int) : Nat × Nat :=
  let ten := Nat.pow 10 e.natAbs
  let two := Nat.pow 2 q.natAbs
  let left := (if 0 ≤ e then d * ten else d) * (if 0 ≤ q then 1 else two)
  let right := (if 0 ≤ q then n * two else n) * (if 0 ≤ e then 1 else ten)
  (left, right)

/-- Whether a decimal rounds to the number: it lies between the midpoints to the neighbours, which
count themselves when the number is even. -/
def roundsTo (d : Nat) (e : Int) (x : Binary) : Bool :=
  let low := if x.m = Nat.pow 2 52 ∧ x.q ≠ Binary.leastExponent then 4 * x.m - 1 else 4 * x.m - 2
  let high := 4 * x.m + 2
  let (dl, l) := sides d e low (x.q - 2)
  let (dh, h) := sides d e high (x.q - 2)
  if x.m % 2 = 0 then l ≤ dl && dh ≤ h else l < dl && dh < h

/-- How far a decimal lies from the number, in a unit that depends on the exponent alone. -/
def distance (d : Nat) (e : Int) (x : Binary) : Nat :=
  let (l, r) := sides d e x.m x.q
  (l - r) + (r - l)

/-- The best decimal with the given power of ten as its unit, if one rounds to the number. -/
def onGrid? (e : Int) (x : Binary) : Option Digits :=
  let (num, den) := x.ratio
  let below := if 0 ≤ e then num / (den * Nat.pow 10 e.toNat) else num * Nat.pow 10 (-e).toNat / den
  let above := below + 1
  match roundsTo below e x, roundsTo above e x with
  | true, true => some ⟨if distance above e x < distance below e x then above else below, e⟩
  | true, false => some ⟨below, e⟩
  | false, true => some ⟨above, e⟩
  | false, false => none

/-- The first decimal on grids from coarse to fine. -/
def firstOnGrids (x : Binary) : (fuel : Nat) → (e : Int) → Digits
  | 0, e => ⟨0, e⟩
  | fuel + 1, e =>
    match onGrid? e x with
    | some d => if d.digits = 0 then firstOnGrids x fuel (e - 1) else d
    | none => firstOnGrids x fuel (e - 1)

/-- The shortest decimal of a positive number. -/
def shortest (x : Binary) : Digits :=
  firstOnGrids x 640 309

/-- The text of a number: at most sixteen digits before the point and at most four zeros after it
in front of the digits, and an exponent otherwise. -/
def text (x : Binary) : List Char :=
  if x.m = 0 then ['0', '.', '0']
  else
    let d := shortest x
    let ds := Nat.toDigits 10 d.digits
    let point := (ds.length : Int) + d.exponent
    if 0 ≤ d.exponent ∧ point ≤ 16 then
      ds ++ List.replicate d.exponent.toNat '0' ++ ['.', '0']
    else if 0 < point ∧ point ≤ 16 then
      ds.take point.toNat ++ '.' :: ds.drop point.toNat
    else if -5 < point ∧ point ≤ 0 then
      ['0', '.'] ++ List.replicate (-point).toNat '0' ++ ds
    else
      let fraction := if ds.length = 1 then ds else ds.take 1 ++ '.' :: ds.drop 1
      fraction ++ 'e' :: (toString (point - 1)).toList

end PeerTrust.Decimal
