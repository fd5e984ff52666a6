import PeerTrust.Certificate
import PeerTrust.Config.Basic
import PeerTrust.Event
import PeerTrust.KeySet

/-!
# Trust policies

How a chain is judged: by the platform's path validation or one with anchors of its own, not at all,
or by a pin on a certificate, on a digest of a key for certain hosts, or on a set of keys. Every
fault of a configuration is found when the policy is built. Building leaves nothing in the log,
unless it is trust in every chain that is built.
-/

namespace PeerTrust

/-- How a chain is judged. -/
inductive TrustPolicy where
  /-- Path validation to the platform's certificates, or to the given anchors instead. -/
  | systemDefault (anchors : Option (List PeerCertificate))
  /-- Every chain is accepted. Only debug builds have this. -/
  | trustAll
  /-- The chain must hold the very certificate. -/
  | pinnedCertificate (authority : PeerCertificate)
  /-- The host must be one of the pattern's, and some key in the chain must have the digest. -/
  | pinnedDigest (pattern : HostPattern) (pin : Pin)
  /-- Some certificate in the chain must carry one of the keys. -/
  | pinnedPublicKey (keys : KeySet)

namespace TrustPolicy

/-- Whether two policies are equal. Certificates are compared by their octets. -/
def same : TrustPolicy → TrustPolicy → Bool
  | systemDefault none, systemDefault none => true
  | systemDefault (some a), systemDefault (some b) => a == b
  | trustAll, trustAll => true
  | pinnedCertificate a, pinnedCertificate b => a == b
  | pinnedDigest p a, pinnedDigest q b => decide (p = q) && decide (a = b)
  | pinnedPublicKey a, pinnedPublicKey b => decide (a = b)
  | _, _ => false

instance : BEq TrustPolicy := ⟨same⟩

/-- The short name of a policy's kind. -/
def kind : TrustPolicy → String
  | systemDefault _ => "system_default"
  | trustAll => "trust_all"
  | pinnedCertificate _ => "pinned_certificate"
  | pinnedDigest .. => "pinned_digest"
  | pinnedPublicKey _ => "pinned_public_key"

/-- Whether every chain is accepted. -/
def isTrustAll : TrustPolicy → Bool
  | trustAll => true
  | _ => false

/-- Path validation to anchors, of which there must be at least one. -/
def ofAnchors (anchors : List PeerCertificate) : Except PolicyFault TrustPolicy :=
  if anchors.isEmpty then .error .noAnchors else .ok (systemDefault (some anchors))

/-- Trust in every chain, for debug builds, of which the log warns. -/
def ofTrustAll : BuildMode → Built PolicyFault TrustPolicy
  | .debug => ⟨.ok trustAll, [.trustAllBuilt]⟩
  | .release => ⟨.error .trustAllNeedsDebug, []⟩

/-- A pin on a digest for the hosts of a pattern. -/
def ofDigest (pattern : String) (algorithm : DigestAlgorithm) (hash : Bytes) :
    Except PolicyFault TrustPolicy := do
  let pattern ← (HostPattern.ofString pattern).mapError .host
  let pin ← (Pin.ofHash algorithm hash).mapError .pin
  return pinnedDigest pattern pin

/-- A pin, given by its text, for the hosts of a pattern. -/
def ofDigestText (pattern pin : String) : Except PolicyFault TrustPolicy := do
  let pattern ← (HostPattern.ofString pattern).mapError .host
  let pin ← (Pin.ofString pin).mapError .pin
  return pinnedDigest pattern pin

/-- A pin on keys, of which there must be at least one. -/
def ofKeys (keys : List PublicKey) : Except PolicyFault TrustPolicy :=
  let set := KeySet.ofList keys
  if set.isEmpty then .error .noKeys else .ok (pinnedPublicKey set)

end TrustPolicy

namespace PolicyConfig

/-- The text of a member that must be there and not be blank. -/
def required (member : String) (text : Option String) : Except PolicyFault String :=
  match text with
  | some s => if (Text.trim s.toList).isEmpty then .error (.missing member) else .ok s
  | none => .error (.missing member)

/-- A key in armour or in hexadecimal digits. -/
def readKey (text : String) : Except PolicyFault PublicKey :=
  let key :=
    if Text.occursIn "-----BEGIN".toList text.toList then
      PublicKey.ofArmour (Utf8.encodeString text)
    else PublicKey.ofHex text
  key.mapError (.unreadable "trustedKeys")

/-- Path validation to the anchors in a text, or to the platform's certificates if there is no
text. -/
def systemPolicy (text : Option String) : Except PolicyFault TrustPolicy :=
  match text with
  | some text => do
    let anchors ← (PeerCertificate.bundle (Utf8.encodeString text)).mapError
      (.unreadable "anchors")
    TrustPolicy.ofAnchors anchors
  | none => .ok (.systemDefault none)

/-- A pin on the certificate in a text. -/
def certificatePolicy (text : Option String) : Except PolicyFault TrustPolicy := do
  let text ← required "authority" text
  let authority ← (PeerCertificate.ofArmour (Utf8.encodeString text)).mapError
    (.unreadable "authority")
  return .pinnedCertificate authority

/-- A pin on a digest for the hosts of a pattern. -/
def digestPolicy (pattern pin : Option String) : Except PolicyFault TrustPolicy := do
  let pattern ← required "hostname" pattern
  let pin ← required "expected" pin
  TrustPolicy.ofDigestText pattern pin

/-- A pin on the keys in a list of texts. -/
def keyPolicy (texts : List String) : Except PolicyFault TrustPolicy := do
  let keys ← texts.mapM readKey
  TrustPolicy.ofKeys keys

/-- The policy that a configuration describes. Members that its kind does not need are ignored. -/
def toPolicy (c : PolicyConfig) : Built PolicyFault TrustPolicy :=
  match c.variant with
  | .systemDefault => ⟨systemPolicy c.anchors, []⟩
  | .trustAll => TrustPolicy.ofTrustAll c.buildMode
  | .pinnedCertificate => ⟨certificatePolicy c.authority, []⟩
  | .pinnedDigest => ⟨digestPolicy c.hostname c.expected, []⟩
  | .pinnedPublicKey => ⟨keyPolicy c.trustedKeys, []⟩

end PolicyConfig

end PeerTrust
