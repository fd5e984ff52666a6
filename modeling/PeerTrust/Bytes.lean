/-!
# Octet strings

Everything that is signed, hashed or compared is a list of octets. A number and the octets that
spell it, most significant first, are converted here; a text becomes octets in `Text.Utf8`.
-/

namespace PeerTrust

/-- A string of octets. -/
abbrev Bytes := List UInt8

namespace Bytes

/-- The number that the octets spell, most significant first. -/
def toNat (bs : Bytes) : Nat :=
  bs.foldl (fun n b => n * 256 + b.toNat) 0

/-- The last `len` octets of a number, most significant first. -/
def ofNat : (len : Nat) → Nat → Bytes
  | 0, _ => []
  | len + 1, n => ofNat len (n / 256) ++ [UInt8.ofNat n]

/-- How many octets a number needs; zero needs none. -/
def sizeOf (n : Nat) : Nat :=
  if n = 0 then 0 else Nat.log2 n / 8 + 1

/-- The fewest octets that spell a number; zero is spelled by no octet. -/
def ofNatMinimal (n : Nat) : Bytes :=
  ofNat (sizeOf n) n

/-- Encodings that are written have their sizes counted in 31 bits. -/
def writtenLimit : Nat := Nat.pow 2 31

/-- The number that the octets spell, least significant first. -/
def toNatLittle : Bytes → Nat
  | [] => 0
  | b :: rest => b.toNat + 256 * toNatLittle rest

/-- The octets of a text whose characters all lie below 256, one octet a character. -/
def ofLatin (text : String) : Bytes :=
  text.toList.map fun c => UInt8.ofNat c.toNat

@[simp] theorem length_ofNat (len n : Nat) : (ofNat len n).length = len := by
  induction len generalizing n with
  | zero => rfl
  | succ len ih => simp [ofNat, ih]

/-- Comparison of octet strings: the first difference decides, and a proper beginning comes first. -/
def lt : Bytes → Bytes → Bool
  | _, [] => false
  | [], _ :: _ => true
  | a :: as, b :: bs => a < b || (a == b && lt as bs)

end Bytes

end PeerTrust
