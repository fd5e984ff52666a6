import PeerTrust.Fault
import PeerTrust.Json.Reader
import PeerTrust.Url.Fault
import PeerTrust.Verdict

/-!
# Errors of the engine

Everything that can go wrong outside a verdict, by where it comes from, and the one wording of each.
-/

namespace PeerTrust

/-- Why surroundings or a target are unusable. -/
inductive SetupFault where
  /-- A probe needs another scheme. -/
  | unsupportedScheme (scheme : String)
  | missingHost
  /-- The platform's certificates cannot be loaded. -/
  | platformUnavailable (detail : String)
  /-- A cause stated elsewhere. -/
  | stated (text : String)
  deriving DecidableEq, Repr

/-- What a setup fault says. -/
def SetupFault.message : SetupFault → String
  | unsupportedScheme scheme => "unsupported URL scheme: " ++ scheme
  | missingHost => "URL missing host"
  | platformUnavailable detail => "platform trust store unavailable: " ++ detail
  | stated text => text

/-- An error of the engine. -/
inductive EngineError where
  | setup (fault : SetupFault)
  | misconfigured (fault : PolicyFault)
  | certificate (fault : CertificateFault)
  | rejected (reason : RejectReason)
  | tls (detail : String)
  | network (detail : String)
  | json (fault : Json.Fault)
  | url (fault : Url.Fault)
  | internal (detail : String)
  deriving DecidableEq, Repr

namespace EngineError

/-- What an error says. -/
def message (diagnose : Diagnosis) : EngineError → String
  | setup fault => "configuration: " ++ fault.message
  | misconfigured fault => "misconfigured policy: " ++ fault.message diagnose
  | certificate fault => fault.report diagnose
  | rejected reason => "certificate rejected: " ++ reason.message
  | tls detail => "tls handshake: " ++ detail
  | network detail => detail
  | json fault => fault.message
  | url fault => fault.message
  | internal detail => "internal panic: " ++ detail

/-- Whether the error is a verdict, not a failure to reach one. -/
def isRejection : EngineError → Bool
  | rejected _ => true
  | _ => false

end EngineError

/-- A verdict as an outcome that can be passed on as an error. -/
def Verdict.toExcept : Verdict → Except EngineError Unit
  | accepted => .ok ()
  | rejected reason => .error (.rejected reason)

end PeerTrust
