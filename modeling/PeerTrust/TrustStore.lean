import PeerTrust.Certificate
import PeerTrust.Error
import PeerTrust.Path.LeafHost
import PeerTrust.Path.Validate

/-!
# Trust stores

The certificates to which a path must lead: those of the platform, or anchors of a policy. Only
anchors may be trusted without signing themselves. A chain is valid for a host when a path leads
from its leaf to the store and the leaf is one for the host.
-/

namespace PeerTrust

/-- Where the certificates of a store come from. -/
inductive StoreOrigin where
  | platform
  | anchors
  deriving DecidableEq, Repr

/-- The word for an origin. -/
def StoreOrigin.word : StoreOrigin → String
  | platform => "platform"
  | anchors => "anchors"

/-- Certificates to which a path must lead. -/
structure TrustStore where
  origin : StoreOrigin
  certificates : List X509.Certificate

/-- Why a chain is not valid for a host. -/
inductive ValidationFault where
  | emptyChain
  | unreadableLeaf (der : Bytes)
  | unreadableIntermediate (der : Bytes)
  /-- No path leads from the leaf with the given octets. -/
  | path (leaf : Bytes) (fault : Path.Fault)
  | hostMismatch (host : String)
  deriving DecidableEq, Repr

/-- What a validation fault says. -/
def ValidationFault.message (diagnose : Diagnosis) : ValidationFault → String
  | emptyChain => "empty chain"
  | unreadableLeaf der => "unreadable leaf certificate: " ++ diagnose .certificate der
  | unreadableIntermediate der =>
    "unreadable intermediate certificate: " ++ diagnose .certificate der
  | path _ (.stopped cause depth) => cause.text ++ " (depth " ++ toString depth ++ ")"
  | path leaf .textless => diagnose .validation leaf
  | hostMismatch host => "certificate is not valid for host " ++ host

namespace TrustStore

/-- The certificate in octets that were read before; they are the error. -/
def reread (der : Bytes) : Except Bytes X509.Certificate :=
  match X509.Certificate.ofDer? der with
  | some x => .ok x
  | none => .error der

/-- The certificates in a list of a peer's, read once more; the first that cannot be fails the
whole. -/
def readAll (certificates : List PeerCertificate) : Except Bytes (List X509.Certificate) :=
  certificates.mapM fun c => reread c.der

/-- A store of anchors, of which there must be at least one. -/
def ofAnchors (anchors : List PeerCertificate) : Except EngineError TrustStore :=
  if anchors.isEmpty then .error (.misconfigured .noAnchors)
  else match readAll anchors with
  | .ok certificates => .ok ⟨.anchors, certificates⟩
  | .error der => .error (.certificate (.undecodable .certificate der))

/-- What a search to the store may use. -/
def sources (store : TrustStore) (offered : List X509.Certificate) (now : X509.Moment) :
    Path.Sources :=
  ⟨store.certificates, offered, store.origin = .anchors, now⟩

/-- Whether a path leads from the first certificate of a chain to the store at a moment; the leaf
is the answer. -/
def validatePath (store : TrustStore) (now : X509.Moment) (chain : PeerChain) :
    Except ValidationFault X509.Certificate :=
  match chain.certificates with
  | [] => .error .emptyChain
  | first :: rest =>
    match reread first.der, readAll rest with
    | .error der, _ => .error (.unreadableLeaf der)
    | .ok _, .error der => .error (.unreadableIntermediate der)
    | .ok leaf, .ok offered =>
      match Path.validate (store.sources offered now) leaf with
      | .ok () => .ok leaf
      | .error fault => .error (.path first.der fault)

/-- Whether a chain is valid for a host at a moment. -/
def validate (store : TrustStore) (now : X509.Moment) (chain : PeerChain) (host : String) :
    Except ValidationFault Unit :=
  match store.validatePath now chain with
  | .error fault => .error fault
  | .ok leaf => if Path.matchesHost leaf host then .ok () else .error (.hostMismatch host)

end TrustStore

end PeerTrust
