import PeerTrust.Signature.Dsa
import PeerTrust.Signature.Edwards
import PeerTrust.Signature.Rsa

/-!
# Signature schemes

The algorithm identifier of a signature names a scheme. A scheme goes with one kind of key, and a
signature is checked under the scheme by the key.
-/

namespace PeerTrust.Signature

open PeerTrust.Asn1 PeerTrust.X509

/-- A way to sign. The digest is missing when it is one that nobody accepts any more. -/
inductive Scheme where
  | rsa (hash : Option HashName)
  | rsaPss
  | ecdsa (hash : HashName)
  | dsa (hash : HashName)
  | ed25519
  | ed448
  /-- A scheme whose signatures are not checked here and never fit. -/
  | lattice (oid : ObjectId)
  deriving DecidableEq, Repr

namespace Scheme

/-- The schemes with their object identifiers. -/
def registry : List (ObjectId × Scheme) :=
  [(ObjectId.dotted "1.2.840.113549.1.1.2", rsa none),
   (ObjectId.dotted "1.2.840.113549.1.1.3", rsa none),
   (ObjectId.dotted "1.2.840.113549.1.1.4", rsa (some .md5)),
   (ObjectId.dotted "1.2.840.113549.1.1.5", rsa (some .sha1)),
   (ObjectId.dotted "1.2.840.113549.1.1.10", rsaPss),
   (ObjectId.dotted "1.2.840.113549.1.1.11", rsa (some .sha256)),
   (ObjectId.dotted "1.2.840.113549.1.1.12", rsa (some .sha384)),
   (ObjectId.dotted "1.2.840.113549.1.1.13", rsa (some .sha512)),
   (ObjectId.dotted "1.2.840.113549.1.1.14", rsa (some .sha224)),
   (ObjectId.dotted "1.2.840.113549.1.1.15", rsa (some .sha512t224)),
   (ObjectId.dotted "1.2.840.113549.1.1.16", rsa (some .sha512t256)),
   (ObjectId.dotted "1.3.14.3.2.3", rsa (some .md5)),
   (ObjectId.dotted "1.3.14.3.2.15", rsa none),
   (ObjectId.dotted "1.3.14.3.2.29", rsa (some .sha1)),
   (ObjectId.dotted "1.3.36.3.3.1.2", rsa none),
   (ObjectId.dotted "2.16.840.1.101.3.4.3.13", rsa (some .sha3t224)),
   (ObjectId.dotted "2.16.840.1.101.3.4.3.14", rsa (some .sha3t256)),
   (ObjectId.dotted "2.16.840.1.101.3.4.3.15", rsa (some .sha3t384)),
   (ObjectId.dotted "2.16.840.1.101.3.4.3.16", rsa (some .sha3t512)),
   (ObjectId.dotted "1.2.840.10045.4.1", ecdsa .sha1),
   (ObjectId.dotted "1.2.840.10045.4.2", ecdsa .sha256),
   (ObjectId.dotted "1.2.840.10045.4.3", ecdsa .sha256),
   (ObjectId.dotted "1.2.840.10045.4.3.1", ecdsa .sha224),
   (ObjectId.dotted "1.2.840.10045.4.3.2", ecdsa .sha256),
   (ObjectId.dotted "1.2.840.10045.4.3.3", ecdsa .sha384),
   (ObjectId.dotted "1.2.840.10045.4.3.4", ecdsa .sha512),
   (ObjectId.dotted "2.16.840.1.101.3.4.3.9", ecdsa .sha3t224),
   (ObjectId.dotted "2.16.840.1.101.3.4.3.10", ecdsa .sha3t256),
   (ObjectId.dotted "2.16.840.1.101.3.4.3.11", ecdsa .sha3t384),
   (ObjectId.dotted "2.16.840.1.101.3.4.3.12", ecdsa .sha3t512),
   (ObjectId.dotted "1.2.840.10040.4.3", dsa .sha1),
   (ObjectId.dotted "2.16.840.1.101.3.4.3.1", dsa .sha224),
   (ObjectId.dotted "2.16.840.1.101.3.4.3.2", dsa .sha256),
   (ObjectId.dotted "2.16.840.1.101.3.4.3.3", dsa .sha384),
   (ObjectId.dotted "2.16.840.1.101.3.4.3.4", dsa .sha512),
   (ObjectId.dotted "2.16.840.1.101.3.4.3.5", dsa .sha3t224),
   (ObjectId.dotted "2.16.840.1.101.3.4.3.6", dsa .sha3t256),
   (ObjectId.dotted "2.16.840.1.101.3.4.3.7", dsa .sha3t384),
   (ObjectId.dotted "2.16.840.1.101.3.4.3.8", dsa .sha3t512),
   (ObjectId.dotted "1.3.101.112", ed25519),
   (ObjectId.dotted "1.3.101.113", ed448)]

/-- The scheme that an object identifier names. -/
def ofOid? (oid : ObjectId) : Option Scheme :=
  match registry.find? (·.1 == oid) with
  | some (_, scheme) => some scheme
  | none => if latticeSizes.any (·.1 == oid) then some (lattice oid) else none

/-- Whether a key is of the kind that signs by a scheme. A plain RSA key signs with a salt too. -/
def fits (scheme : Scheme) (key : SubjectKey) : Bool :=
  match scheme, key with
  | rsa _, .rsa .. => true
  | rsaPss, .rsa .. => true
  | rsaPss, .rsaPss .. => true
  | ecdsa _, .curvePoint .. => true
  | dsa _, .dsa .. => true
  | ed25519, .raw .ed25519 _ => true
  | ed448, .raw .ed448 _ => true
  | lattice oid, .raw (.lattice other _) _ => oid == other
  | _, _ => false

end Scheme

/-- The parameters of a signature with a salt, which must be there. -/
def pssParameters? : Option AnyValue → Option PssParameters
  | some (.verbatim octets) => (SubjectKey.elementOf? octets).bind PssParameters.ofElement?
  | _ => none

/-- Whether a signature under a scheme fits a message and a key. -/
def holds (scheme : Scheme) (parameters : Option AnyValue) (key : SubjectKey)
    (message signature : Bytes) : Bool :=
  match scheme, key with
  | .rsa (some hash), .rsa n e => rsaVerifies n e hash message signature
  | .rsaPss, .rsa n e =>
    match pssParameters? parameters with
    | some q => rsaPssVerifies n e q message signature
    | none => false
  | .rsaPss, .rsaPss restriction n e =>
    match pssParameters? parameters with
    | some q => (restriction.map (restrictionAllows · q)).getD true
        && rsaPssVerifies n e q message signature
    | none => false
  | .ecdsa hash, .curvePoint c octets =>
    match c.prime? with
    | some curve =>
      match curve.point? octets with
      | some point => ecdsaVerifies curve point hash message signature
      | none => false
    | none => false
  | .dsa hash, .dsa p q g y => dsaVerifies p q g y.toNat hash message signature
  | .ed25519, .raw .ed25519 octets => ed25519Verifies octets message signature
  | .ed448, .raw .ed448 octets => ed448Verifies octets message signature
  | _, _ => false

/-- Whether the signature that an algorithm identifier describes fits a message and a key. The
octets of a signature are whole. -/
def verifies (key : SubjectKey) (algorithm : Algorithm) (message : Bytes) (signature : BitString) :
    Bool :=
  match Scheme.ofOid? algorithm.oid with
  | some scheme =>
    signature.unused == 0 && scheme.fits key
      && holds scheme algorithm.parameters key message signature.octets
  | none => false

end PeerTrust.Signature
