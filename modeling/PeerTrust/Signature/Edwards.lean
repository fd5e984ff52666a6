import PeerTrust.Curve.Edwards
import PeerTrust.Digest.Keccak
import PeerTrust.Digest.Sha2

/-!
# Signatures on curves in Edwards form

A signature is a point and a number. It fits when the number times the base is the point plus a
multiple of the key, which a digest of point, key and message determines.
-/

namespace PeerTrust.Signature

open PeerTrust.Curve

/-- The point that a signature must have brought, given the factor of the key. -/
def expectedPoint (c : Edwards) (number : Nat) (key : Projective) (digest : Bytes) : Projective :=
  c.sumOfMultiples number c.base (Bytes.toNatLittle digest % c.order) (c.negate key)

/-- Whether a signature on a curve fits a message, where `digest` takes what comes before the
message. -/
def edwardsVerifies (c : Edwards) (digest : Bytes → Bytes) (key message signature : Bytes) : Bool :=
  let point := signature.take c.size
  let number := Bytes.toNatLittle (signature.drop c.size)
  match c.point? key with
  | some a =>
    signature.length == 2 * c.size && number < c.order
      && c.writePoint (expectedPoint c number a (digest (point ++ key ++ message))) == point
  | none => false

/-- Whether a signature on the smaller curve fits a message. -/
def ed25519Verifies (key message signature : Bytes) : Bool :=
  edwardsVerifies edwards25519 Digest.sha512 key message signature

/-- What the larger curve puts in front of everything that is digested. -/
def ed448Domain : Bytes :=
  Bytes.ofLatin "SigEd448" ++ [0, 0]

/-- Whether a signature on the larger curve fits a message. -/
def ed448Verifies (key message signature : Bytes) : Bool :=
  edwardsVerifies edwards448 (fun bs => Digest.shake256 114 (ed448Domain ++ bs)) key message
    signature

end PeerTrust.Signature
