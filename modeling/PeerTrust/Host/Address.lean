import PeerTrust.Text.Hex

/-!
# Network addresses

Addresses of four and of sixteen octets and their text: dotted decimal numbers without leading
zeros, and groups of hexadecimal digits between colons with at most one gap `::`, where the last
two groups may be a dotted address.
-/

namespace PeerTrust

/-- A network address. -/
inductive Address where
  | v4 (octets : Bytes)
  | v6 (octets : Bytes)
  deriving DecidableEq, Repr

namespace Address

/-- The octets of an address. -/
def octets : Address → Bytes
  | v4 bs => bs
  | v6 bs => bs

/-- The digits at the start of a text, as a number, and what follows. At least one digit and at most
`limit` must be there. -/
def number? (value : Char → Option Nat) (base limit : Nat) (text : List Char) :
    Option (Nat × List Char) :=
  let digits := text.takeWhile fun c => (value c).isSome
  if digits.isEmpty ∨ limit < digits.length then none
  else some (digits.foldl (fun n c => base * n + (value c).getD 0) 0, text.drop digits.length)

/-- The value of a decimal digit. -/
def decimal? (c : Char) : Option Nat :=
  if '0' ≤ c ∧ c ≤ '9' then some (c.toNat - '0'.toNat) else none

/-- A decimal octet without leading zeros. -/
def octet? (text : List Char) : Option (UInt8 × List Char) := do
  let (n, rest) ← number? decimal? 10 3 text
  let longZero := text.head? = some '0' ∧ rest.length + 1 < text.length
  if n < 256 ∧ ¬longZero then return (UInt8.ofNat n, rest) else none

/-- Reads a character that must stand next. -/
def expect (c : Char) : List Char → Option (List Char)
  | d :: rest => if d = c then some rest else none
  | [] => none

/-- A dotted address at the start of a text. -/
def readV4 (text : List Char) : Option (Bytes × List Char) := do
  let (a, rest) ← octet? text
  let (b, rest) ← octet? (← expect '.' rest)
  let (c, rest) ← octet? (← expect '.' rest)
  let (d, rest) ← octet? (← expect '.' rest)
  return ([a, b, c, d], rest)

/-- A group of hexadecimal digits. -/
def group? (text : List Char) : Option (Bytes × List Char) := do
  let (n, rest) ← number? Hex.value? 16 4 text
  return (Bytes.ofNat 2 n, rest)

/-- Groups at the start of a text, at most `room` of them, each after a colon unless it is the
first. A dotted address counts as two groups and ends them. The answer holds the octets, whether a
dotted address was read, and what follows. -/
def readGroups : (room : Nat) → (first : Bool) → List Char → Bytes × Bool × List Char
  | 0, _, text => ([], false, text)
  | room + 1, first, text =>
    let start := if first then some text else expect ':' text
    let dotted := if room = 0 then none else start.bind readV4
    match dotted with
    | some (bs, rest) => (bs, true, rest)
    | none =>
      match start.bind group? with
      | none => ([], false, text)
      | some (bs, rest) =>
        let (more, ended, rest) := readGroups room false rest
        (bs ++ more, ended, rest)

/-- An address of sixteen octets at the start of a text. -/
def readV6 (text : List Char) : Option (Bytes × List Char) := do
  let (head, dotted, rest) := readGroups 8 true text
  if head.length = 16 then return (head, rest)
  if dotted then none
  let rest ← expect ':' (← expect ':' rest)
  let (tail, _, rest) := readGroups (8 - (head.length / 2 + 1)) true rest
  return (head ++ List.replicate (16 - head.length - tail.length) 0 ++ tail, rest)

/-- The address that a text spells. -/
def ofText? (text : List Char) : Option Address :=
  match readV4 text with
  | some (bs, []) => some (.v4 bs)
  | some _ => none
  | none =>
    match readV6 text with
    | some (bs, []) => some (.v6 bs)
    | _ => none

/-- The sixteen-bit groups of an address. -/
def groups : Bytes → List Nat
  | a :: b :: rest => (256 * a.toNat + b.toNat) :: groups rest
  | _ => []

/-- How many zeros a list begins with. -/
def leadingZeros (l : List Nat) : Nat :=
  (l.takeWhile (· = 0)).length

/-- The start and length of the first longest run of zeros. -/
def longestZeros (l : List Nat) : Nat × Nat :=
  (List.range l.length).foldl
    (fun (start, len) i =>
      let here := leadingZeros (l.drop i)
      if len < here then (i, here) else (start, len))
    (0, 0)

/-- Groups between colons. -/
def colonText (l : List Nat) : List Char :=
  List.intercalate [':'] (l.map Hex.ofNat)

/-- The canonical text of sixteen octets: the first longest run of two or more zero groups is
written as a gap. -/
def textV6 (bs : Bytes) : List Char :=
  let l := groups bs
  let (start, len) := longestZeros l
  if len < 2 then colonText l
  else colonText (l.take start) ++ [':', ':'] ++ colonText (l.drop (start + len))

/-- The dotted text of four octets. -/
def textV4 (bs : Bytes) : List Char :=
  List.intercalate ['.'] (bs.map fun b => Nat.toDigits 10 b.toNat)

/-- The canonical text of an address. -/
def toText : Address → List Char
  | v4 bs => textV4 bs
  | v6 bs => textV6 bs

end Address

end PeerTrust
