/-!
# Faults of a URL

Why a text is not an absolute URL.
-/

namespace PeerTrust.Url

/-- Why a text is not an absolute URL. -/
inductive Fault where
  | emptyHost
  | invalidDomainName
  | invalidPort
  | invalidV4Address
  | invalidV6Address
  | invalidDomainCharacter
  | relativeWithoutBase
  | tooLong
  deriving DecidableEq, Repr

/-- What a URL fault says. -/
def Fault.message : Fault → String
  | emptyHost => "empty host"
  | invalidDomainName => "invalid international domain name"
  | invalidPort => "invalid port number"
  | invalidV4Address => "invalid IPv4 address"
  | invalidV6Address => "invalid IPv6 address"
  | invalidDomainCharacter => "invalid domain character"
  | relativeWithoutBase => "relative URL without a base"
  | tooLong => "URLs more than 4 GB are not supported"

end PeerTrust.Url
