import PeerTrust.Digest.Keccak
import PeerTrust.Digest.Md5
import PeerTrust.Digest.Sha1
import PeerTrust.Digest.Sha2
import PeerTrust.X509.SubjectKey

/-!
# Digests of signatures

Signatures are made over a digest of the message. Here each named digest gets its size and its
value.
-/

namespace PeerTrust.X509.HashName

/-- How many octets a digest has. -/
def size : HashName → Nat
  | md5 => 16
  | sha1 => 20
  | sha224 | sha512t224 | sha3t224 => 28
  | sha256 | sha512t256 | sha3t256 => 32
  | sha384 | sha3t384 => 48
  | sha512 | sha3t512 => 64

/-- The digest of a message. -/
def digest : HashName → Bytes → Bytes
  | md5 => Digest.md5
  | sha1 => Digest.sha1
  | sha224 => Digest.sha224
  | sha256 => Digest.sha256
  | sha384 => Digest.sha384
  | sha512 => Digest.sha512
  | sha512t224 => Digest.sha512t224
  | sha512t256 => Digest.sha512t256
  | sha3t224 => Digest.sha3 28
  | sha3t256 => Digest.sha3 32
  | sha3t384 => Digest.sha3 48
  | sha3t512 => Digest.sha3 64

end PeerTrust.X509.HashName
