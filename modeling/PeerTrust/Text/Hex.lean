import PeerTrust.Bytes
import PeerTrust.Text.Utf8

/-!
# Hexadecimal text

Two digits an octet. Writing is in one letter case throughout, reading takes any mixture and says
at which octet of the text a reading fails.
-/

namespace PeerTrust.Hex

/-- The digit of a value below sixteen, with the given letter for ten. -/
def digit (ten : Char) (n : Nat) : Char :=
  if n < 10 then Char.ofNat ('0'.toNat + n) else Char.ofNat (ten.toNat + (n - 10))

/-- The digits of an octet string, letters counted from `ten`. -/
def encodeWith (ten : Char) (bs : Bytes) : List Char :=
  bs.flatMap fun b => [digit ten (b.toNat / 16), digit ten (b.toNat % 16)]

/-- Lower-case digits. -/
def encodeLower (bs : Bytes) : String :=
  String.ofList (encodeWith 'a' bs)

/-- Upper-case digits. -/
def encodeUpper (bs : Bytes) : String :=
  String.ofList (encodeWith 'A' bs)

/-- The value of a hexadecimal digit in either letter case. -/
def value? (c : Char) : Option Nat :=
  if '0' ≤ c ∧ c ≤ '9' then some (c.toNat - '0'.toNat)
  else if 'a' ≤ c ∧ c ≤ 'f' then some (c.toNat - 'a'.toNat + 10)
  else if 'A' ≤ c ∧ c ≤ 'F' then some (c.toNat - 'A'.toNat + 10)
  else none

/-- Why a text is not hexadecimal. -/
inductive Fault where
  /-- The text has an odd number of octets. -/
  | oddLength
  /-- An octet of the text is no digit. -/
  | notADigit (octet : UInt8) (index : Nat)
  deriving DecidableEq, Repr

/-- The octets that pairs of digits spell; `index` counts the octets of text before them. -/
def decodePairs (index : Nat) : Bytes → Except Fault Bytes
  | hi :: lo :: rest =>
    match value? (Char.ofNat hi.toNat) with
    | none => .error (.notADigit hi index)
    | some h =>
      match value? (Char.ofNat lo.toNat) with
      | none => .error (.notADigit lo (index + 1))
      | some l => (decodePairs (index + 2) rest).map (UInt8.ofNat (16 * h + l) :: ·)
  | _ => .ok []

/-- The octets that a text of digits spells. An odd length is reported before any other fault. -/
def decode (text : List Char) : Except Fault Bytes :=
  let octets := Utf8.encode text
  if octets.length % 2 = 1 then .error .oddLength else decodePairs 0 octets

/-- The number that hexadecimal digits spell; a character that is no digit counts as zero. -/
def number (digits : List Char) : Nat :=
  digits.foldl (fun n c => 16 * n + (value? c).getD 0) 0

/-- The digits of a number in lower case, without leading zeros. -/
def ofNat (n : Nat) : List Char :=
  Nat.toDigits 16 n

/-- The words of a text that blanks separate. -/
def words (text : String) : List (List Char) :=
  text.toList.foldr
    (fun c ws =>
      if c = ' ' then [] :: ws
      else match ws with
        | w :: rest => (c :: w) :: rest
        | [] => [[c]])
    [[]]
  |>.filter (!·.isEmpty)

/-- The numbers that a text of hexadecimal words lists. -/
def numbers (text : String) : List Nat :=
  (words text).map number

end PeerTrust.Hex
