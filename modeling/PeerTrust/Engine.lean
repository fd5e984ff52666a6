import PeerTrust.Config.Reader
import PeerTrust.Policy
import PeerTrust.Session
import PeerTrust.TrustStore

/-!
# The engine

An engine binds a policy to the path validation that it may need. It judges a chain that is
presented for a host at some moment, tells the place in the chain that satisfied a pin, and leaves
one event in the log of the session. Whatever it asks of path validation goes through the session,
too.
-/

namespace PeerTrust

/-- What an engine finds around it: the platform's certificates, unless they cannot be loaded, and
what the decoder says. -/
structure Surroundings where
  platform : Except String TrustStore
  diagnose : Diagnosis

/-- Path validation to a store, which has no state. -/
def TrustStore.verifier {σ : Type} (store : TrustStore) (diagnose : Diagnosis) : SystemVerifier σ :=
  fun call =>
    return (store.validate call.now call.chain call.host).mapError (ValidationFault.message diagnose)

/-- A policy bound to path validation. -/
structure Engine (σ : Type) where
  policy : TrustPolicy
  system : Option (SystemVerifier σ)

/-- What judging a chain comes to. -/
structure Judgement where
  verdict : Verdict
  /-- The place in the chain that satisfied the policy. -/
  depth : Option Nat

namespace Engine

variable {σ : Type}

/-- The store that a policy needs, if it needs one. -/
def storeFor (around : Surroundings) : TrustPolicy → Except EngineError (Option TrustStore)
  | .systemDefault (some anchors) => (TrustStore.ofAnchors anchors).map some
  | .systemDefault none =>
    match around.platform with
    | .ok store => .ok (some store)
    | .error detail => .error (.setup (.platformUnavailable detail))
  | _ => .ok none

/-- An engine for a policy. -/
def ofPolicy (around : Surroundings) (policy : TrustPolicy) : Except EngineError (Engine σ) :=
  (storeFor around policy).map fun store =>
    ⟨policy, store.map (·.verifier around.diagnose)⟩

/-- An engine for a policy with path validation of one's own. -/
def withSystem (policy : TrustPolicy) (system : SystemVerifier σ) : Engine σ :=
  ⟨policy, some system⟩

/-- An engine for a configuration. -/
def ofConfig (around : Surroundings) (config : PolicyConfig) : Built EngineError (Engine σ) :=
  (config.toPolicy.mapError .misconfigured).bind (ofPolicy around)

/-- An engine for a configuration in JSON. -/
def ofJson (around : Surroundings) (json : String) : Built EngineError (Engine σ) :=
  match PolicyConfig.ofJson json with
  | .ok config => ofConfig around config
  | .error fault => ⟨.error (.json fault), []⟩

/-- What path validation comes to; an engine without it refuses. -/
def outcome (e : Engine σ) (call : SystemCall) : StateM (Session σ) (Except String Unit) :=
  match e.system with
  | some system => Session.consult system call
  | none => return .error "no system verifier configured"

/-- A judgement by a pin: the first certificate that satisfies it decides. -/
def judgePin (chain : PeerChain) (pinned : PeerCertificate → Bool) (reason : RejectReason) :
    Judgement :=
  match chain.certificates.findIdx? pinned with
  | some depth => ⟨.accepted, some depth⟩
  | none => ⟨.rejected reason, none⟩

/-- A judgement by path validation. -/
def judgeSystem (e : Engine σ) (call : SystemCall) : StateM (Session σ) Judgement := do
  match ← e.outcome call with
  | .ok () => return ⟨.accepted, some 0⟩
  | .error detail => return ⟨.rejected (.systemValidationFailed detail), none⟩

/-- Whether the digest of a certificate's key is the pinned one. -/
def carriesDigest (pin : Pin) (c : PeerCertificate) : Bool :=
  sameOctets (pin.algorithm.digest c.publicKey.der) pin.hash

/-- Judges a chain that is not empty. -/
def judgeChain (e : Engine σ) (now : X509.Moment) (chain : PeerChain) (host : String) :
    StateM (Session σ) Judgement :=
  match e.policy with
  | .trustAll => return ⟨.accepted, none⟩
  | .systemDefault _ => e.judgeSystem ⟨now, chain, host⟩
  | .pinnedCertificate authority =>
    return judgePin chain (·.der == authority.der) .certificateMismatch
  | .pinnedDigest pattern pin =>
    return if pattern.covers host then judgePin chain (carriesDigest pin) .digestMismatch
      else ⟨.rejected (.hostnameMismatch pattern.text host), none⟩
  | .pinnedPublicKey keys =>
    return judgePin chain (fun c => keys.contains c.publicKey) .publicKeyMismatch

/-- Judges a chain. Nothing but trust in every chain accepts an empty one. -/
def judge (e : Engine σ) (now : X509.Moment) (chain : PeerChain) (host : String) :
    StateM (Session σ) Judgement :=
  if e.policy.isTrustAll then return ⟨.accepted, none⟩
  else if chain.isEmpty then return ⟨.rejected .emptyChain, none⟩
  else e.judgeChain now chain host

/-- The event that a judgement leaves in the log. -/
def eventOf (e : Engine σ) (chain : PeerChain) (host : String) (j : Judgement) : Event :=
  match j.verdict with
  | .accepted =>
    if e.policy.isTrustAll then .trustAllAccepted host
    else .accepted e.policy.kind host j.depth
      (j.depth.bind fun d => chain.certificates[d]?.map (·.subject))
  | .rejected reason => .rejected e.policy.kind host reason chain.subjects (chain.pins .sha256)

/-- Judges a chain that is presented for a host. -/
def verify (e : Engine σ) (now : X509.Moment) (chain : PeerChain) (host : String) :
    StateM (Session σ) Verdict := do
  let j ← e.judge now chain host
  Session.tell [e.eventOf chain host j]
  return j.verdict

/-- Reads a chain and judges it. -/
def verifyDers (e : Engine σ) (now : X509.Moment) (ders : List Bytes) (host : String) :
    StateM (Session σ) (Except EngineError Verdict) :=
  match PeerChain.ofDers ders with
  | .ok chain => .ok <$> e.verify now chain host
  | .error fault => return .error (.certificate fault)

/-- A chain with the host that it is presented for, and the moment. -/
structure Step where
  now : X509.Moment
  ders : List Bytes
  host : String

/-- Answers a sequence of steps. -/
def run (e : Engine σ) : List Step → StateM (Session σ) (List (Except EngineError Verdict))
  | [] => return []
  | step :: rest => do
    let answer ← e.verifyDers step.now step.ders step.host
    let answers ← run e rest
    return answer :: answers

end Engine

/-- Judges one chain by a policy. An empty chain is told before anything is built, and a store that
cannot be built rejects the chain. -/
def verifyChain {σ : Type} (around : Surroundings) (policy : TrustPolicy) (now : X509.Moment)
    (chain : PeerChain) (host : String) : StateM (Session σ) Verdict :=
  if chain.isEmpty && !policy.isTrustAll then return .rejected .emptyChain
  else match Engine.ofPolicy around policy with
    | .ok e => e.verify now chain host
    | .error fault =>
      return .rejected (.systemValidationFailed (fault.message around.diagnose))

end PeerTrust
