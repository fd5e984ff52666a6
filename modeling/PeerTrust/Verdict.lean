/-!
# Verdicts

The outcome of judging a chain: it is accepted, or rejected for one reason.
-/

namespace PeerTrust

/-- Why a chain is rejected. -/
inductive RejectReason where
  | emptyChain
  /-- The host is not one that the pinned pattern stands for. -/
  | hostnameMismatch (expected actual : String)
  | digestMismatch
  | publicKeyMismatch
  | certificateMismatch
  /-- Path validation fails, with its explanation. -/
  | systemValidationFailed (detail : String)
  deriving DecidableEq, Repr

namespace RejectReason

/-- What a reason says. -/
def message : RejectReason → String
  | emptyChain => "peer presented an empty certificate chain"
  | hostnameMismatch expected actual =>
    "hostname " ++ actual ++ " does not match pinned host " ++ expected
  | digestMismatch => "no certificate matches the pinned digest"
  | publicKeyMismatch => "no certificate carries a trusted public key"
  | certificateMismatch => "pinned certificate not present in chain"
  | systemValidationFailed detail => "system validation failed: " ++ detail

/-- The code of a reason's kind in reports. -/
def code : RejectReason → String
  | emptyChain => "empty_chain"
  | hostnameMismatch .. => "hostname_mismatch"
  | digestMismatch => "digest_mismatch"
  | publicKeyMismatch => "public_key_mismatch"
  | certificateMismatch => "certificate_mismatch"
  | systemValidationFailed _ => "system_validation_failed"

/-- What a reason carries beside its kind. -/
def fields : RejectReason → List (String × String)
  | hostnameMismatch expected actual => [("expected", expected), ("actual", actual)]
  | systemValidationFailed detail => [("detail", detail)]
  | _ => []

end RejectReason

/-- The outcome of judging a chain. -/
inductive Verdict where
  | accepted
  | rejected (reason : RejectReason)
  deriving DecidableEq, Repr

namespace Verdict

/-- Whether the chain is accepted. -/
def isAccepted : Verdict → Bool
  | accepted => true
  | rejected _ => false

/-- The reason of a rejection. -/
def reason? : Verdict → Option RejectReason
  | accepted => none
  | rejected reason => some reason

end Verdict

end PeerTrust
