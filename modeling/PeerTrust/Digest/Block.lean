import PeerTrust.Bytes

/-!
# Blocks and words of a digest

A message is filled up to whole blocks with a one bit, zeros and its bit length; a block is read as
words. The digests differ in the size of a block and in the order of octets within a word.
-/

namespace PeerTrust.Digest

/-- An octet string filled up to whole blocks: a one bit, zeros, and the bit length in `lengthSize`
octets that `spell` writes. -/
def padded (blockSize lengthSize : Nat) (spell : Nat → Nat → Bytes) (message : Bytes) : Bytes :=
  let tail := (message.length + 1 + lengthSize) % blockSize
  let zeros := if tail = 0 then 0 else blockSize - tail
  message ++ 0x80 :: List.replicate zeros 0 ++ spell lengthSize (8 * message.length)

/-- An octet string cut into pieces of `size` octets; a shorter piece at the end is dropped. -/
def blocks (size : Nat) (bs : Bytes) : List Bytes :=
  (List.range (bs.length / size)).map fun i => (bs.drop (i * size)).take size

/-- Big-endian 32-bit words. -/
def words32 : Bytes → List UInt32
  | a :: b :: c :: d :: rest => UInt32.ofNat (Bytes.toNat [a, b, c, d]) :: words32 rest
  | _ => []

/-- Little-endian 32-bit words. -/
def words32Little : Bytes → List UInt32
  | a :: b :: c :: d :: rest => UInt32.ofNat (Bytes.toNat [d, c, b, a]) :: words32Little rest
  | _ => []

/-- A number as octets, least significant first. -/
def spellLittle (len n : Nat) : Bytes :=
  (Bytes.ofNat len n).reverse

/-- Rotation of a 32-bit word to the left. -/
def rotl32 (x : UInt32) (k : UInt32) : UInt32 :=
  (x <<< k) ||| (x >>> (32 - k))

/-- The five working words of SHA-1; MD5 leaves the last one alone. -/
structure Registers where
  a : UInt32
  b : UInt32
  c : UInt32
  d : UInt32
  e : UInt32

/-- Word-wise sum. -/
def Registers.add (x y : Registers) : Registers :=
  ⟨x.a + y.a, x.b + y.b, x.c + y.c, x.d + y.d, x.e + y.e⟩

end PeerTrust.Digest
