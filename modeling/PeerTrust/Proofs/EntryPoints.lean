import PeerTrust.Binding
import PeerTrust.Proofs.Outcome
import PeerTrust.Proofs.Session

/-!
# The entry points

A chain can be judged in one call or by an engine that is built once, on parsed certificates or
through the binding on encodings. The one-call forms look at the empty chain, build the engine and
read the chain in an order of their own. The lemmas here say that this order never shows: each
one-call form is the engine's answer where there is an engine, and otherwise the fault of building
it. The one difference is in the log: about an empty chain the one-call form for policies leaves no
event, unless every chain is trusted.
-/

namespace PeerTrust

variable {σ : Type} {around : Surroundings} {e : Engine σ} {now : X509.Moment} {host : String}

namespace Engine

theorem policy_ofPolicy {policy : TrustPolicy} (h : ofPolicy around policy = .ok e) :
    e.policy = policy := by
  obtain ⟨_, -, rfl⟩ := map_eq_ok_iff.mp h
  rfl

/-- Trust in every chain needs no store, so there is always an engine for it. -/
theorem isTrustAll_of_ofPolicy_error {policy : TrustPolicy} {fault : EngineError}
    (h : ofPolicy (σ := σ) around policy = .error fault) : policy.isTrustAll = false := by
  cases policy with
  | trustAll => cases h
  | _ => rfl

theorem ofConfig_of_ok {c : PolicyConfig} {policy : TrustPolicy}
    (h : c.toPolicy.result = .ok policy) :
    (ofConfig around c).result = ofPolicy (σ := σ) around policy := by
  rw [ofConfig, Built.result_bind, Built.result_mapError, h]
  rfl

theorem ofConfig_of_error {c : PolicyConfig} {fault : PolicyFault}
    (h : c.toPolicy.result = .error fault) :
    (ofConfig (σ := σ) around c).result = .error (.misconfigured fault) := by
  rw [ofConfig, Built.result_bind, Built.result_mapError, h]
  rfl

/-- An engine for a configuration is one for its policy. -/
theorem ofConfig_eq_ok_iff {c : PolicyConfig} :
    (ofConfig around c).result = .ok e
      ↔ ∃ policy, c.toPolicy.result = .ok policy ∧ ofPolicy around policy = .ok e := by
  refine bind_eq_ok_iff.trans (exists_congr fun policy => ?_)
  rw [Built.result_mapError, mapError_eq_ok_iff]

end Engine

section Policies

/-! ### Policies -/

variable {policy : TrustPolicy} {chain : PeerChain}

/-- One call to judge a chain is asking the engine, unless it tells that the chain is empty. -/
theorem verifyChain_eq_verify (h : Engine.ofPolicy around policy = .ok e)
    (hlooked : (chain.isEmpty && !policy.isTrustAll) = false) :
    verifyChain around policy now chain host = e.verify now chain host := by
  rw [verifyChain, hlooked, h]
  rfl

/-- One call to judge a chain gives the engine's verdict. -/
theorem verifyChain_of_ok (h : Engine.ofPolicy around policy = .ok e) (s : Session σ) :
    ((verifyChain around policy now chain host).run s).1
      = ((e.verify now chain host).run s).1 := by
  cases hlooked : chain.isEmpty && !policy.isTrustAll with
  | false => rw [verifyChain_eq_verify h hlooked]
  | true =>
    rw [verifyChain, hlooked]
    rw [Bool.and_eq_true, Bool.not_eq_true'] at hlooked
    rw [e.verify_of_isEmpty hlooked.1, Engine.policy_ofPolicy h, hlooked.2]
    rfl

/-- Without an engine a chain is rejected, as empty or else for the fault of building one, and
nothing else comes of it. -/
theorem verifyChain_of_error {fault : EngineError}
    (h : Engine.ofPolicy (σ := σ) around policy = .error fault) :
    verifyChain (σ := σ) around policy now chain host
      = pure (.rejected (if chain.isEmpty then .emptyChain
          else .systemValidationFailed (fault.message around.diagnose))) := by
  unfold verifyChain
  rw [Engine.isTrustAll_of_ofPolicy_error h, h, Bool.not_false, Bool.and_true]
  split <;> rfl

end Policies

namespace Binding

/-! ### The binding -/

section Records

/-- Reasons of the engine are told apart by the binding. -/
theorem Reason.ofReject_injective : Function.Injective Reason.ofReject := by
  intro a b h
  cases a <;> cases b <;> cases h <;> rfl

/-- A record holds a verdict when it says whether the chain is accepted, and the reason with its
text if it is not. -/
structure Outcome.Records (o : Outcome) (v : Verdict) : Prop where
  accepted : o.accepted = true ↔ v = .accepted
  reason : o.reason = v.reason?.map Reason.ofReject
  message : o.message = v.reason?.map RejectReason.message

variable {o : Outcome} {v w : Verdict}

/-- Just one record holds a verdict. -/
theorem Outcome.records_iff : o.Records v ↔ o = .ofVerdict v := by
  constructor
  · rintro ⟨haccepted, hreason, hmessage⟩
    obtain ⟨accepted, reason, message⟩ := o
    cases v with
    | accepted =>
      cases haccepted.mpr rfl
      cases hreason
      cases hmessage
      rfl
    | rejected r =>
      have hrefused : accepted = false := by
        rw [← Bool.not_eq_true]
        exact fun h => nomatch haccepted.mp h
      cases hrefused
      cases hreason
      cases hmessage
      rfl
  · rintro rfl
    cases v with
    | accepted => exact ⟨iff_of_true rfl rfl, rfl, rfl⟩
    | rejected r => exact ⟨iff_of_false nofun nofun, rfl, rfl⟩

/-- Just one verdict is held by a record. -/
theorem Outcome.Records.unique (hv : o.Records v) (hw : o.Records w) : v = w := by
  have hreasons := hv.reason.symm.trans hw.reason
  cases v with
  | accepted => exact (hw.accepted.mp (hv.accepted.mpr rfl)).symm
  | rejected r =>
    cases w with
    | accepted => cases hreasons
    | rejected r' =>
      exact congrArg Verdict.rejected (Reason.ofReject_injective (Option.some.inj hreasons))

end Records

variable {config : PolicyConfig} {ders : List Bytes}

/-- An engine of the binding is one for the configuration. -/
theorem engine_eq_ok_iff :
    (engine around config).result = .ok e ↔ (Engine.ofConfig around config).result = .ok e :=
  mapError_eq_ok_iff

theorem engine_of_error {fault : EngineError}
    (h : (Engine.ofConfig (σ := σ) around config).result = .error fault) :
    (engine (σ := σ) around config).result = .error (.ofEngine around.diagnose fault) := by
  rw [engine, Built.result_mapError, h]
  rfl

/-- One call tells what is wrong with the configuration, after the events of building. -/
theorem verifyChain_of_error {fault : BindingError}
    (h : (engine (σ := σ) around config).result = .error fault) :
    verifyChain (σ := σ) around config now ders host
      = (do Session.tell (engine (σ := σ) around config).events
            return .error fault) := by
  unfold verifyChain
  dsimp only
  rw [h]

/-- One call is building the engine and asking it. -/
theorem verifyChain_of_ok (h : (engine around config).result = .ok e) :
    verifyChain around config now ders host
      = (do Session.tell (engine (σ := σ) around config).events
            verify around e now ders host) := by
  unfold verifyChain verify Engine.verifyDers
  dsimp only
  rw [h]
  cases PeerChain.ofDers ders <;> rfl

theorem run_verify (around : Surroundings) (e : Engine σ) (s : Session σ) :
    (verify around e now ders host).run s
      = ((((e.verifyDers now ders host).run s).1.map Outcome.ofVerdict).mapError
          (.ofEngine around.diagnose),
        ((e.verifyDers now ders host).run s).2) := by
  rw [verify, StateT.run_bind]
  cases (e.verifyDers now ders host).run s with
  | mk answer s' => cases answer <;> rfl

/-- The binding answers with the record of the engine's verdict. -/
theorem verify_eq_ok_iff {s : Session σ} {o : Outcome} :
    ((verify around e now ders host).run s).1 = .ok o
      ↔ ∃ v, ((e.verifyDers now ders host).run s).1 = .ok v ∧ o.Records v := by
  rw [run_verify, mapError_eq_ok_iff, map_eq_ok_iff]
  simp only [Outcome.records_iff, eq_comm]

theorem verify_of_error {s : Session σ} {fault : EngineError}
    (h : ((e.verifyDers now ders host).run s).1 = .error fault) :
    ((verify around e now ders host).run s).1 = .error (.ofEngine around.diagnose fault) := by
  rw [run_verify, h]
  rfl

end Binding

/-- All entry points give the same verdict, at any moment and in any session. Where there is an
engine for a policy, one call to judge a chain gives the engine's verdict, and does what the engine
does unless it tells that the chain is empty; where there is none, it rejects the chain as empty or
for the fault of building the engine. Through the binding, one call is building the engine and asking
it; the fault of the configuration comes before any of the chain, and an answer is the record of the
verdict on the encodings, which is the record of no other. -/
theorem entryPoints_agree {σ : Type} (around : Surroundings) :
    (∀ policy now chain host,
      (∀ e : Engine σ, Engine.ofPolicy around policy = .ok e →
        (∀ s, ((verifyChain around policy now chain host).run s).1
          = ((e.verify now chain host).run s).1)
        ∧ ((chain.isEmpty && !policy.isTrustAll) = false →
          verifyChain around policy now chain host = e.verify now chain host))
      ∧ ∀ fault, Engine.ofPolicy (σ := σ) around policy = .error fault →
        verifyChain (σ := σ) around policy now chain host
          = pure (.rejected (if chain.isEmpty then .emptyChain
              else .systemValidationFailed (fault.message around.diagnose))))
    ∧ (∀ (c : Binding.Config) now ders host,
      (∀ fault, (Engine.ofConfig (σ := σ) around c.toPolicyConfig).result = .error fault →
        (Binding.engine (σ := σ) around c.toPolicyConfig).result
          = .error (.ofEngine around.diagnose fault)
        ∧ Binding.verifyChain (σ := σ) around c.toPolicyConfig now ders host
          = (do Session.tell (Binding.engine (σ := σ) around c.toPolicyConfig).events
                return .error (.ofEngine around.diagnose fault)))
      ∧ ∀ e : Engine σ, (Engine.ofConfig around c.toPolicyConfig).result = .ok e →
        (Binding.engine around c.toPolicyConfig).result = .ok e
        ∧ Binding.verifyChain around c.toPolicyConfig now ders host
          = (do Session.tell (Binding.engine (σ := σ) around c.toPolicyConfig).events
                Binding.verify around e now ders host)
        ∧ ∀ s : Session σ,
          (∀ fault, ((e.verifyDers now ders host).run s).1 = .error fault →
            ((Binding.verify around e now ders host).run s).1
              = .error (.ofEngine around.diagnose fault))
          ∧ ∀ o, ((Binding.verify around e now ders host).run s).1 = .ok o
            ↔ ∃ v, ((e.verifyDers now ders host).run s).1 = .ok v ∧ o.Records v)
    ∧ ∀ (o : Binding.Outcome) v w, o.Records v → o.Records w → v = w := by
  refine ⟨fun policy now chain host => ⟨fun e h => ⟨verifyChain_of_ok h, verifyChain_eq_verify h⟩,
    fun fault => verifyChain_of_error⟩, fun c now ders host => ⟨fun fault h => ?_, fun e h => ?_⟩,
    fun o v w => Binding.Outcome.Records.unique⟩
  · have hengine := Binding.engine_of_error h
    exact ⟨hengine, Binding.verifyChain_of_error hengine⟩
  · have hengine := Binding.engine_eq_ok_iff.mpr h
    exact ⟨hengine, Binding.verifyChain_of_ok hengine, fun s =>
      ⟨fun fault => Binding.verify_of_error, fun o => Binding.verify_eq_ok_iff⟩⟩

/-- Where the platform's certificates cannot be loaded, an empty chain is still told to be empty and
trust in every chain still accepts it. A configuration that cannot be used is told before a chain
that cannot be read; with a store the chain is told, and an empty chain is rejected with its
reason. -/
theorem entryPoints_agree_specimen :
    ∃ (unloaded loaded : Surroundings) (c : Binding.Config) (now : X509.Moment) (s : Session Unit),
      ((verifyChain unloaded .trustAll now ⟨[]⟩ "example.com").run s).1 = .accepted
      ∧ ((verifyChain unloaded (.systemDefault none) now ⟨[]⟩ "example.com").run s).1
        = .rejected .emptyChain
      ∧ ((verifyChain unloaded (.systemDefault none) now ⟨[⟨[0], ⟨[1]⟩, "", "", ""⟩]⟩
          "example.com").run s).1
        = .rejected (.systemValidationFailed
            "configuration: platform trust store unavailable: no store")
      ∧ ((Binding.verifyChain unloaded c.toPolicyConfig now [[0]] "example.com").run s).1
        = .error (.misconfigured "configuration: platform trust store unavailable: no store")
      ∧ ((Binding.verifyChain loaded c.toPolicyConfig now [[0]] "example.com").run s).1
        = .error (.certificate "certificate: invalid DER certificate: no structure")
      ∧ ((Binding.verifyChain loaded c.toPolicyConfig now [] "example.com").run s).1
        = .ok ⟨false, some .emptyChain, some "peer presented an empty certificate chain"⟩ := by
  let unloaded : Surroundings := ⟨.error "no store", fun _ _ => "no structure"⟩
  let loaded : Surroundings := ⟨.ok ⟨.platform, []⟩, fun _ _ => "no structure"⟩
  let c : Binding.Config := ⟨.systemDefault, none, none, none, [], none, .release⟩
  let now := X509.Moment.of 2026 1 1 0 0 0
  let s : Session Unit := .start ()
  obtain ⟨hpolicy, hconfig, -⟩ := entryPoints_agree (σ := Unit) unloaded
  have hloaded := (entryPoints_agree (σ := Unit) loaded).2.1 c now
  have hrejects (chain : PeerChain) := (hpolicy (.systemDefault none) now chain "example.com").2 _ rfl
  refine ⟨unloaded, loaded, c, now, s, ?_, ?_, ?_, ?_, ?_, ?_⟩
  · exact ((hpolicy .trustAll now ⟨[]⟩ "example.com").1 ⟨.trustAll, none⟩ rfl).1 s
  · rw [hrejects ⟨[]⟩]
    rfl
  · rw [hrejects ⟨[⟨[0], ⟨[1]⟩, "", "", ""⟩]⟩]
    rfl
  · rw [((hconfig c now [[0]] "example.com").1 _ rfl).2]
    rfl
  · obtain ⟨-, hcall, hanswer⟩ := (hloaded [[0]] "example.com").2 _ rfl
    rw [hcall]
    exact (hanswer _).1 (.certificate (.invalidDer [0])) rfl
  · obtain ⟨-, hcall, hanswer⟩ := (hloaded [] "example.com").2 _ rfl
    rw [hcall]
    exact ((hanswer _).2 _).mpr ⟨_, rfl, ⟨nofun, nofun⟩, rfl, rfl⟩

end PeerTrust
