import PeerTrust.Host.Address
import PeerTrust.Host.Pattern
import PeerTrust.X509.Statement

/-!
# The host of a leaf

Whether a certificate is one for a host. A host that is spelled as an address must be among the
addresses that the certificate binds. Any other host must be covered by a host name that it binds
or, only when it has no readable alternative names at all, by one of its common names.
-/

namespace PeerTrust.Path

open PeerTrust.X509

/-- Whether a name in a certificate covers a host. Only one asterisk may stand in front. -/
def nameCovers (name : List Char) (host : String) : Bool :=
  match name with
  | '*' :: '*' :: _ => false
  | _ =>
    match HostPattern.ofString (String.ofList name) with
    | .ok p => p.covers host
    | .error _ => false

/-- Whether an alternative name covers a host that is no address. -/
def altNameCovers (host : String) : GeneralName → Bool
  | .dns text =>
    match Utf8.decode? text with
    | some name => nameCovers name host
    | none => false
  | _ => false

/-- Whether an alternative name is an address. -/
def altNameIs (address : Address) : GeneralName → Bool
  | .address octets => octets == address.octets
  | _ => false

/-- Whether a common name covers a host. -/
def commonNameCovers (host : String) (a : Attribute) : Bool :=
  match cleanText? a.value with
  | some name => nameCovers name host
  | none => false

/-- The common names of a certificate. -/
def commonNames (c : Certificate) : List Attribute :=
  c.body.subject.attributes.filter (·.oid == oidCommonName)

/-- Whether a certificate is one for a host. -/
def matchesHost (c : Certificate) (host : String) : Bool :=
  match c.altNames.value?, Address.ofText? host.toList with
  | some names, some address => names.any (altNameIs address)
  | some names, none => names.any (altNameCovers host)
  | none, some _ => false
  | none, none => (commonNames c).any (commonNameCovers host)

end PeerTrust.Path
