import PeerTrust.Signature.Hash

/-!
# RSA signatures

A signature is a number that, raised to the public exponent, gives a block of octets that holds the
digest of the message: either behind fixed padding, or mixed with a salt under a mask.
-/

namespace PeerTrust.Signature

open PeerTrust.Asn1 PeerTrust.X509

/-- The octets that a signature gives back, as many as the modulus has. The modulus must be odd and
within bounds, and a large one needs a small exponent. -/
def rsaRecover? (modulus exponent : Nat) (signature : Bytes) : Option Bytes :=
  let size := Bytes.sizeOf modulus
  let s := Bytes.toNat signature
  let bits := Nat.log2 modulus + 1
  if signature.length = size ∧ s < modulus ∧ modulus % 2 = 1 ∧ exponent < modulus ∧ bits ≤ 16384
      ∧ (bits ≤ 3072 ∨ exponent < Nat.pow 2 64) then
    some (Bytes.ofNat size (Modular.pow modulus s exponent))
  else none

/-- A digest with the name of its algorithm. -/
def digestInfo (hash : HashName) (message : Bytes) : Bytes :=
  writeSequence [PssParameters.writeHash hash, writePrimitive tagOctetString (hash.digest message)]

/-- The block of a signature with fixed padding: at least eight octets of ones between marks. -/
def paddedBlock? (size : Nat) (contents : Bytes) : Option Bytes :=
  if contents.length + 11 ≤ size then
    some (0 :: 1 :: List.replicate (size - 3 - contents.length) 0xFF ++ 0 :: contents)
  else none

/-- Whether a signature with fixed padding fits a message. -/
def rsaVerifies (modulus exponent : Nat) (hash : HashName) (message signature : Bytes) : Bool :=
  match rsaRecover? modulus exponent signature with
  | some block => paddedBlock? block.length (digestInfo hash message) == some block
  | none => false

/-- The first `len` octets of a mask that grows from a seed. -/
def maskOctets (hash : HashName) (seed : Bytes) (len : Nat) : Bytes :=
  ((List.range (len / hash.size + 1)).flatMap fun i =>
    hash.digest (seed ++ Bytes.ofNat 4 i)).take len

/-- Octets under a mask. -/
def masked (a b : Bytes) : Bytes :=
  (a.zip b).map fun (x, y) => x ^^^ y

/-- The block with the bits above the modulus taken off, with how many bits of its first octet are
in use; `none` when a bit above is set. A modulus with one bit more than whole octets leaves an
octet of its own, which must be zero. -/
def maskedBlock? (modulus : Nat) (block : Bytes) : Option (Bytes × Nat) :=
  let used := Nat.log2 modulus % 8
  match block with
  | [] => none
  | b :: rest =>
    if b.toNat / Nat.pow 2 used ≠ 0 then none
    else some (if used = 0 then rest else block, used)

/-- Whether a block holds a digest with a salt under a mask. -/
def saltedBlockHolds (q : PssParameters) (block : Bytes) (used : Nat) (message : Bytes) : Bool :=
  let hashSize := q.hash.size
  if block.length < hashSize + q.saltLength + 2 then false
  else
    let dbSize := block.length - hashSize - 1
    let h := (block.drop dbSize).take hashSize
    let db := match masked (block.take dbSize) (maskOctets q.maskHash h dbSize) with
      | [] => []
      | b :: rest => (if used = 0 then b else UInt8.ofNat (b.toNat % Nat.pow 2 used)) :: rest
    let salt := db.drop (dbSize - q.saltLength)
    block.getLast? == some 0xBC
      && db.take (dbSize - q.saltLength - 1) == List.replicate (dbSize - q.saltLength - 1) 0
      && (db.drop (dbSize - q.saltLength - 1)).head? == some 1
      && q.hash.digest (List.replicate 8 0 ++ q.hash.digest message ++ salt) == h

/-- Whether a signature with a salt fits a message. -/
def rsaPssVerifies (modulus exponent : Nat) (q : PssParameters) (message signature : Bytes) : Bool :=
  match (rsaRecover? modulus exponent signature).bind (maskedBlock? modulus) with
  | some (block, used) => q.trailer == 1 && saltedBlockHolds q block used message
  | none => false

/-- Whether the restriction of a key allows the parameters of a signature. -/
def restrictionAllows (restriction q : PssParameters) : Bool :=
  q.hash == restriction.hash && q.maskHash == restriction.maskHash
    && restriction.saltLength ≤ q.saltLength

end PeerTrust.Signature
