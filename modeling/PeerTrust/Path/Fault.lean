/-!
# Faults of certification paths

Why no path leads from a certificate to one that is trusted, and how far from the leaf the fault
lies.
-/

namespace PeerTrust.Path

/-- Why a path fails. -/
inductive Cause where
  | selfSignedLeaf
  | selfSignedInChain
  /-- The issuer of a certificate that came with the chain is not at hand. -/
  | localIssuerMissing
  /-- The issuer of a trusted certificate is not at hand. -/
  | issuerMissing
  | chainTooLong
  | unknownCritical
  | proxyRefused
  | invalidAuthority
  | spelledCurve
  | unsuitablePurpose
  | pathTooLong
  | signatureFailure
  | notBeforeUnreadable
  | notYetValid
  | notAfterUnreadable
  | expired
  | outsidePermitted
  | insideExcluded
  | subtreeBounded
  | constraintForm
  | constraintText
  | nameText
  | unspecified
  deriving DecidableEq, Repr

/-- What a cause says. -/
def Cause.text : Cause → String
  | selfSignedLeaf => "self-signed certificate"
  | selfSignedInChain => "self-signed certificate in certificate chain"
  | localIssuerMissing => "unable to get local issuer certificate"
  | issuerMissing => "unable to get issuer certificate"
  | chainTooLong => "certificate chain too long"
  | unknownCritical => "unhandled critical extension"
  | proxyRefused => "proxy certificates not allowed, please set the appropriate flag"
  | invalidAuthority => "invalid CA certificate"
  | spelledCurve => "Certificate public key has explicit ECC parameters"
  | unsuitablePurpose => "unsuitable certificate purpose"
  | pathTooLong => "path length constraint exceeded"
  | signatureFailure => "certificate signature failure"
  | notBeforeUnreadable => "format error in certificate's notBefore field"
  | notYetValid => "certificate is not yet valid or the system clock is incorrect"
  | notAfterUnreadable => "format error in certificate's notAfter field"
  | expired => "certificate has expired"
  | outsidePermitted => "permitted subtree violation"
  | insideExcluded => "excluded subtree violation"
  | subtreeBounded => "name constraints minimum and maximum not supported"
  | constraintForm => "unsupported name constraint type"
  | constraintText => "unsupported or invalid name constraint syntax"
  | nameText => "unsupported or invalid name syntax"
  | unspecified => "unspecified certificate verification error"

/-- Why validation fails. -/
inductive Fault where
  /-- A cause at a certificate so many steps from the leaf. -/
  | stopped (cause : Cause) (depth : Nat)
  /-- A name is of a type that has no text. -/
  | textless
  deriving DecidableEq, Repr

end PeerTrust.Path
