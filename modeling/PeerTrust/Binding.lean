import PeerTrust.Engine
import PeerTrust.Probe.Target

/-!
# The binding

How the engine looks from another language: errors in fewer kinds, each with its text, and verdicts
as records whose fields may be absent. Configurations are records of the binding's own, in which
every field is given; each amounts to a configuration of the engine.
-/

namespace PeerTrust.Binding

/-- Why a chain is rejected, as the binding has it. -/
inductive Reason where
  | emptyChain
  | hostnameMismatch (expected actual : String)
  | digestMismatch
  | publicKeyMismatch
  | certificateMismatch
  | systemValidationFailed (detail : String)
  deriving DecidableEq, Repr

namespace Reason

/-- The binding's reason for one of the engine's. -/
def ofReject : RejectReason → Reason
  | .emptyChain => emptyChain
  | .hostnameMismatch expected actual => hostnameMismatch expected actual
  | .digestMismatch => digestMismatch
  | .publicKeyMismatch => publicKeyMismatch
  | .certificateMismatch => certificateMismatch
  | .systemValidationFailed detail => systemValidationFailed detail

/-- The name of a reason's kind. -/
def name : Reason → String
  | emptyChain => "EmptyChain"
  | hostnameMismatch .. => "HostnameMismatch"
  | digestMismatch => "DigestMismatch"
  | publicKeyMismatch => "PublicKeyMismatch"
  | certificateMismatch => "CertificateMismatch"
  | systemValidationFailed _ => "SystemValidationFailed"

/-- What a reason carries beside its kind. -/
def fields : Reason → List (String × String)
  | hostnameMismatch expected actual => [("expected", expected), ("actual", actual)]
  | systemValidationFailed detail => [("detail", detail)]
  | _ => []

/-- A reason as shown in a diagnostic. -/
def shown (r : Reason) : String :=
  match r.fields with
  | [] => r.name
  | fields => Text.record r.name (fields.map fun (k, v) => (k, Text.quoted v))

end Reason

/-- An error as the binding reports it. -/
inductive BindingError where
  | misconfigured (message : String)
  | certificate (message : String)
  | rejected (reason : Reason)
  | network (message : String)
  | tls (message : String)
  | generic (message : String)
  deriving DecidableEq, Repr

namespace BindingError

/-- The kind of error that an error of the engine becomes. -/
def ofEngine (diagnose : Diagnosis) (e : EngineError) : BindingError :=
  match e with
  | .misconfigured _ | .setup _ | .json _ | .url _ => misconfigured (e.message diagnose)
  | .certificate _ => certificate (e.message diagnose)
  | .rejected reason => rejected (.ofReject reason)
  | .network _ => network (e.message diagnose)
  | .tls _ => tls (e.message diagnose)
  | .internal _ => generic (e.message diagnose)

/-- What an error says. -/
def message : BindingError → String
  | misconfigured m => m
  | certificate m => m
  | rejected reason => reason.shown
  | network m => m
  | tls m => m
  | generic m => m

end BindingError

/-- The kind of policy, as the binding has it. -/
inductive Variant where
  | systemDefault
  | trustAll
  | pinnedCertificate
  | pinnedDigest
  | pinnedPublicKey
  deriving DecidableEq, Repr

/-- The engine's kind of policy for one of the binding's. -/
def Variant.toPolicyVariant : Variant → PolicyVariant
  | systemDefault => .systemDefault
  | trustAll => .trustAll
  | pinnedCertificate => .pinnedCertificate
  | pinnedDigest => .pinnedDigest
  | pinnedPublicKey => .pinnedPublicKey

/-- The kind of build, as the binding has it. -/
inductive Build where
  | debug
  | release
  deriving DecidableEq, Repr

/-- The engine's build mode for one of the binding's. -/
def Build.toBuildMode : Build → BuildMode
  | debug => .debug
  | release => .release

/-- A configuration, as the binding takes it. -/
structure Config where
  variant : Variant
  authority : Option String
  hostname : Option String
  expected : Option String
  trustedKeys : List String
  anchors : Option String
  buildMode : Build
  deriving DecidableEq, Repr

/-- The configuration that a record of the binding's amounts to. -/
def Config.toPolicyConfig (c : Config) : PolicyConfig where
  variant := c.variant.toPolicyVariant
  authority := c.authority
  hostname := c.hostname
  expected := c.expected
  trustedKeys := c.trustedKeys
  anchors := c.anchors
  buildMode := c.buildMode.toBuildMode

/-- A verdict as the binding reports it. -/
structure Outcome where
  accepted : Bool
  reason : Option Reason
  message : Option String
  deriving DecidableEq, Repr

/-- The record of a verdict. -/
def Outcome.ofVerdict : Verdict → Outcome
  | .accepted => ⟨true, none, none⟩
  | .rejected reason => ⟨false, some (.ofReject reason), some reason.message⟩

variable {σ : Type}

/-- An engine for a configuration. -/
def engine (around : Surroundings) (config : PolicyConfig) : Built BindingError (Engine σ) :=
  (Engine.ofConfig around config).mapError (.ofEngine around.diagnose)

/-- Reads a chain and judges it. -/
def verify (around : Surroundings) (e : Engine σ) (now : X509.Moment) (ders : List Bytes)
    (host : String) : StateM (Session σ) (Except BindingError Outcome) := do
  match ← e.verifyDers now ders host with
  | .ok verdict => return .ok (Outcome.ofVerdict verdict)
  | .error fault => return .error (.ofEngine around.diagnose fault)

/-- Judges one chain by a configuration. The engine is built before the chain is read. -/
def verifyChain (around : Surroundings) (config : PolicyConfig) (now : X509.Moment)
    (ders : List Bytes) (host : String) : StateM (Session σ) (Except BindingError Outcome) := do
  let built := engine around config
  Session.tell built.events
  match built.result with
  | .error e => return .error e
  | .ok e =>
    match PeerChain.ofDers ders with
    | .error fault => return .error (.ofEngine around.diagnose (.certificate fault))
    | .ok chain => return .ok (Outcome.ofVerdict (← e.verify now chain host))

/-- Where a probe of a URL connects. -/
def probeTarget (around : Surroundings) (url : String) : Except BindingError ProbeTarget :=
  (ProbeTarget.ofText url).mapError (.ofEngine around.diagnose)

/-- Where a probe of a URL connects that judges by a configuration. The engine is built before the
URL is read. -/
def probeTargetBy (around : Surroundings) (config : PolicyConfig) (url : String) :
    Built BindingError ProbeTarget :=
  (@engine Unit around config).bind fun _ => probeTarget around url

/-- The pin of the key in the first certificate of an armoured text. -/
def pinOf (around : Surroundings) (armour : String) : Except BindingError String :=
  match PeerCertificate.ofArmour (Utf8.encodeString armour) with
  | .ok c =>
    match c.makePin .sha256 with
    | .ok pin => .ok pin.text
    | .error fault => .error (.ofEngine around.diagnose (.misconfigured (.pin fault)))
  | .error fault => .error (.ofEngine around.diagnose (.certificate fault))

end PeerTrust.Binding
