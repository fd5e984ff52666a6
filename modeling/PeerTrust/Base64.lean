import PeerTrust.Text.Blank
import PeerTrust.Bytes

/-!
# Base64

The alphabet with `+` and `/`, written with padding. There are two readers. `decodeBlock` reads
one unbroken text and is lenient about padding: `=` counts as a zero digit wherever it stands, and
only the end of the text says how many octets to drop. `decodeStream` reads the body of an armoured
block: blanks between digits are skipped, padding may only stand at the very end.
-/

namespace PeerTrust.Base64

/-- The digit of a value below sixty-four. -/
def symbol (n : Nat) : Char :=
  if n < 26 then Char.ofNat ('A'.toNat + n)
  else if n < 52 then Char.ofNat ('a'.toNat + (n - 26))
  else if n < 62 then Char.ofNat ('0'.toNat + (n - 52))
  else if n = 62 then '+'
  else '/'

/-- The value of a digit. -/
def value? (c : Char) : Option Nat :=
  if 'A' ≤ c ∧ c ≤ 'Z' then some (c.toNat - 'A'.toNat)
  else if 'a' ≤ c ∧ c ≤ 'z' then some (c.toNat - 'a'.toNat + 26)
  else if '0' ≤ c ∧ c ≤ '9' then some (c.toNat - '0'.toNat + 52)
  else if c = '+' then some 62
  else if c = '/' then some 63
  else none

/-- The text of an octet string, padded to a multiple of four characters. -/
def encode : Bytes → List Char
  | [] => []
  | [a] => [symbol (a.toNat / 4), symbol (a.toNat % 4 * 16), '=', '=']
  | [a, b] =>
    [symbol (a.toNat / 4), symbol (a.toNat % 4 * 16 + b.toNat / 16), symbol (b.toNat % 16 * 4), '=']
  | a :: b :: c :: rest =>
    symbol (a.toNat / 4) :: symbol (a.toNat % 4 * 16 + b.toNat / 16)
      :: symbol (b.toNat % 16 * 4 + c.toNat / 64) :: symbol (c.toNat % 64) :: encode rest

/-- The octets of digits taken four at a time. Characters left over are not read. -/
def decodeQuads (value : Char → Option Nat) : List Char → Option Bytes
  | c₀ :: c₁ :: c₂ :: c₃ :: rest => do
    let a ← value c₀
    let b ← value c₁
    let c ← value c₂
    let d ← value c₃
    let tail ← decodeQuads value rest
    return UInt8.ofNat (a * 4 + b / 16) :: UInt8.ofNat (b % 16 * 16 + c / 4)
      :: UInt8.ofNat (c % 4 * 64 + d) :: tail
  | _ => some []

/-- Digits, with `=` read as zero. -/
def lenientValue? (c : Char) : Option Nat :=
  if c = '=' then some 0 else value? c

/-- The blanks between digits. -/
def isGap (c : Char) : Bool :=
  c = ' ' || c = '\t' || c = '\n' || c = '\r'

/-- Drops gaps and dashes at the end of a reversed text while more than three characters remain. -/
def dropTrailing : List Char → List Char
  | c :: rest => if rest.length ≥ 3 ∧ (isGap c ∨ c = '-') then dropTrailing rest else c :: rest
  | [] => []

/-- How many octets the padding at the end of a text takes away. -/
def paddingOf (text : List Char) : Nat :=
  match text.reverse with
  | '=' :: '=' :: _ => 2
  | '=' :: _ => 1
  | _ => 0

/-- The octets of one unbroken text, blanks around it ignored. -/
def decodeBlock (text : List Char) : Option Bytes :=
  let text := Text.trim text
  if text.isEmpty then some []
  else
    let digits := (dropTrailing text.reverse).reverse
    if digits.length % 4 ≠ 0 then none
    else (decodeQuads lenientValue? digits).map fun out => out.take (out.length - paddingOf text)

/-- The octets of an armoured body. A dash ends the body. -/
def decodeStream (text : List Char) : Option Bytes :=
  let used := text.takeWhile (· ≠ '-')
  let symbols := used.filter fun c => !isGap c
  let digits := symbols.takeWhile (· ≠ '=')
  let padding := symbols.drop digits.length
  if padding.all (· = '=') ∧ padding.length ≤ 2 ∧ symbols.length % 4 = 0 then
    (decodeQuads lenientValue? symbols).map fun out => out.take (out.length - padding.length)
  else none

end PeerTrust.Base64
