import PeerTrust.Proofs.Path.Unreadable
import PeerTrust.Proofs.Pinning
import PeerTrust.Proofs.TrustAll

/-!
# Faults of building an engine

A configuration is checked when its policy is built, and what is wrong with it is told as a
misconfiguration. Binding the policy to path validation reads its anchors once more, and so does
judging a chain with the certificates of the chain. That can only fail where a certificate was lost
in writing: a certificate from armour whose octets are none to the decoder.

The platform's certificates are taken to be loaded. What the decoder says of octets is left open, so
a refusal is told apart by its fault and not by its text.
-/

namespace PeerTrust

namespace TrustPolicy

/-- The anchors of a policy's own, if it has any. -/
def anchors : TrustPolicy → List PeerCertificate
  | systemDefault (some anchors) => anchors
  | _ => []

end TrustPolicy

namespace PolicyConfig

variable {c : PolicyConfig} {policy : TrustPolicy}

/-- The anchors of a policy come from the text in the configuration, and there is one at least. -/
theorem anchors_of_toPolicy {anchors : List PeerCertificate}
    (h : c.toPolicy.result = .ok (.systemDefault (some anchors))) :
    anchors ≠ [] ∧ ∃ text, PeerCertificate.bundle text = .ok anchors := by
  have hkind : .systemDefault = c.variant := variant_toPolicy h
  unfold toPolicy at h
  rw [← hkind] at h
  change systemPolicy _ = _ at h
  unfold systemPolicy at h
  split at h
  · obtain ⟨found, hfound, h⟩ := bind_eq_ok_iff.mp h
    unfold TrustPolicy.ofAnchors at h
    split at h
    · cases h
    · rename_i hne
      cases h
      exact ⟨fun hnil => hne (List.isEmpty_iff.mpr hnil), _, mapError_eq_ok_iff.mp hfound⟩
  · cases h

theorem isRead_of_mem_anchors (h : c.toPolicy.result = .ok policy) {a : PeerCertificate}
    (ha : a ∈ policy.anchors) : a.IsRead := by
  unfold TrustPolicy.anchors at ha
  split at ha
  · obtain ⟨-, text, htext⟩ := anchors_of_toPolicy h
    exact .bundle htext ha
  · cases ha

/-- An anchor is the first of a configuration's that was lost in writing. -/
def Loses (c : PolicyConfig) (a : PeerCertificate) : Prop :=
  ∃ policy, c.toPolicy.result = .ok policy ∧ PeerCertificate.FirstLost policy.anchors a

end PolicyConfig

namespace Engine

variable {σ : Type} {around : Surroundings} {store : TrustStore} {c : PolicyConfig}
  {policy : TrustPolicy}

/-- An engine needs nothing but its store. -/
theorem exists_of_storeFor {found : Option TrustStore} (h : storeFor around policy = .ok found) :
    ∃ e : Engine σ, ofPolicy around policy = .ok e :=
  ⟨⟨policy, found.map (·.verifier around.diagnose)⟩, map_eq_ok_iff.mpr ⟨found, h, rfl⟩⟩

/-- A policy of a configuration can be bound unless an anchor was lost in writing. -/
theorem ofPolicy_of_toPolicy (hplatform : around.platform = .ok store)
    (h : c.toPolicy.result = .ok policy) :
    (∃ e : Engine σ, ofPolicy around policy = .ok e) ∧ (∀ a ∈ policy.anchors, ¬a.LostInWriting)
      ∨ ∃ a, PeerCertificate.FirstLost policy.anchors a
        ∧ ofPolicy (σ := σ) around policy
          = .error (.certificate (.undecodable .certificate a.der)) := by
  have hread := fun a => PolicyConfig.isRead_of_mem_anchors (a := a) h
  cases policy with
  | systemDefault anchors =>
    cases anchors with
    | none =>
      have hstore : storeFor around (.systemDefault none) = .ok (some store) := by
        rw [storeFor, hplatform]
      exact .inl ⟨exists_of_storeFor hstore, fun a ha => nomatch ha⟩
    | some anchors =>
      obtain ⟨hne, -⟩ := PolicyConfig.anchors_of_toPolicy h
      have hempty : ¬anchors.isEmpty = true := fun hnil => hne (List.isEmpty_iff.mp hnil)
      cases hall : TrustStore.readAll anchors with
      | error der =>
        obtain ⟨a, hlost, rfl⟩ := (TrustStore.readAll_eq_error_iff hread).mp hall
        refine .inr ⟨a, hlost, ?_⟩
        rw [ofPolicy, storeFor, TrustStore.ofAnchors, if_neg hempty, hall]
        rfl
      | ok certificates =>
        have hstore : storeFor around (.systemDefault (some anchors))
            = .ok (some ⟨.anchors, certificates⟩) := by
          rw [storeFor, TrustStore.ofAnchors, if_neg hempty, hall]
          rfl
        exact .inl ⟨exists_of_storeFor hstore,
          (TrustStore.exists_readAll_iff hread).mp ⟨certificates, hall⟩⟩
  | _ => exact .inl ⟨⟨_, rfl⟩, fun a ha => nomatch ha⟩

/-- Building an engine fails with a misconfiguration, or with a certificate that was lost in
writing. -/
theorem fault_of_ofConfig (hplatform : around.platform = .ok store) {fault : EngineError}
    (h : (ofConfig (σ := σ) around c).result = .error fault) :
    (∃ cause, c.toPolicy.result = .error cause ∧ fault = .misconfigured cause)
      ∨ ∃ a, c.Loses a ∧ fault = .certificate (.undecodable .certificate a.der) := by
  cases hpolicy : c.toPolicy.result with
  | error cause =>
    rw [ofConfig_of_error hpolicy] at h
    exact .inl ⟨cause, rfl, (Except.error.inj h).symm⟩
  | ok policy =>
    rw [ofConfig_of_ok hpolicy] at h
    rcases ofPolicy_of_toPolicy hplatform hpolicy with ⟨⟨e, he⟩, -⟩ | ⟨a, hlost, hfault⟩
    · rw [he] at h
      cases h
    · rw [hfault] at h
      exact .inr ⟨a, ⟨policy, hpolicy, hlost⟩, (Except.error.inj h).symm⟩

section Verdicts

variable {e : Engine σ} {now : X509.Moment} {chain : PeerChain} {host detail : String}

/-- Pins and trust in every chain do not speak of path validation. -/
theorem verify_ne_systemValidationFailed (s : Session σ)
    (hpolicy : ¬∃ anchors, e.policy = .systemDefault anchors) :
    ((e.verify now chain host).run s).1 ≠ .rejected (.systemValidationFailed detail) := by
  by_cases hne : chain.certificates = []
  · have hempty : chain.isEmpty = true := List.isEmpty_iff.mpr hne
    rw [e.verify_of_isEmpty hempty]
    split <;> nofun
  · by_cases hpin : e.policy.IsPin
    · obtain ⟨pinned, reason, -, hreason, hverify⟩ := e.exists_test host hpin
      have hother : reason ≠ .systemValidationFailed detail := by
        rintro rfl
        unfold TrustPolicy.refusal? at hreason
        split at hreason
        · cases hreason
        · split at hreason <;> cases hreason
        · cases hreason
        · cases hreason
        · cases hreason
      rw [hverify now chain s hne]
      split
      · nofun
      · exact fun h => hother (Verdict.rejected.inj h)
    · obtain ⟨policy, system⟩ := e
      cases policy with
      | systemDefault anchors => exact absurd ⟨anchors, rfl⟩ hpolicy
      | trustAll => nofun
      | _ => exact absurd trivial hpin

/-- Only path validation has a store, and it always has one. -/
theorem exists_store_iff {found : Option TrustStore} (h : storeFor around policy = .ok found) :
    (∃ store, found = some store) ↔ ∃ anchors, policy = .systemDefault anchors := by
  constructor
  · rintro ⟨store, rfl⟩
    cases policy with
    | systemDefault anchors => exact ⟨anchors, rfl⟩
    | _ => cases h
  · rintro ⟨anchors, rfl⟩
    cases anchors with
    | some anchors =>
      obtain ⟨store, -, rfl⟩ := map_eq_ok_iff.mp h
      exact ⟨store, rfl⟩
    | none =>
      cases hplatform : around.platform with
      | ok store =>
        rw [storeFor, hplatform] at h
        exact ⟨store, (Except.ok.inj h).symm⟩
      | error detail =>
        rw [storeFor, hplatform] at h
        cases h

/-- With a store a chain is judged by the store's answer. -/
theorem verify_verifier (store : TrustStore) (diagnose : Diagnosis) (s : Session σ)
    (hconsults : policy.Consults chain) :
    ((verify ⟨policy, some (store.verifier diagnose)⟩ now chain host).run s).1
      = (Judgement.ofSystem ((store.validate now chain host).mapError
          (ValidationFault.message diagnose))).verdict := by
  rw [run_verify, run_judge_of_consults rfl hconsults]
  rfl

/-- What an engine says of path validation is a fault of its store's. -/
theorem verify_eq_systemValidationFailed_iff (h : ofPolicy around policy = .ok e)
    (s : Session σ) :
    ((e.verify now chain host).run s).1 = .rejected (.systemValidationFailed detail)
      ↔ chain.isEmpty = false ∧ ∃ store fault, storeFor around policy = .ok (some store)
        ∧ store.validate now chain host = .error fault
        ∧ fault.message around.diagnose = detail := by
  obtain ⟨found, hfound, rfl⟩ := map_eq_ok_iff.mp h
  by_cases hpolicy : ∃ anchors, policy = .systemDefault anchors
  · obtain ⟨store, rfl⟩ := (exists_store_iff hfound).mpr hpolicy
    cases hempty : chain.isEmpty with
    | true =>
      rw [verify_of_isEmpty _ hempty]
      refine iff_of_false ?_ (fun hboth => nomatch hboth.1)
      split <;> nofun
    | false =>
      change ((verify ⟨policy, some (store.verifier around.diagnose)⟩ now chain host).run s).1 = _
        ↔ _
      rw [verify_verifier store around.diagnose s ⟨hpolicy, hempty⟩, hfound]
      cases hvalidate : store.validate now chain host with
      | ok _ => simp [Except.mapError, Judgement.ofSystem, hvalidate]
      | error fault => simp [Except.mapError, Judgement.ofSystem, hvalidate]
  · refine iff_of_false (verify_ne_systemValidationFailed s hpolicy) ?_
    rintro ⟨-, store, -, hstore, -⟩
    exact hpolicy ((exists_store_iff hstore).mp ⟨store, rfl⟩)

end Verdicts

end Engine

/-- No certificate of a chain that is read from encodings was lost in writing. -/
theorem PeerChain.isRead_of_ofDers {ders : List Bytes} {chain : PeerChain}
    (h : PeerChain.ofDers ders = .ok chain) {c : PeerCertificate} (hc : c ∈ chain.certificates) :
    c.IsRead ∧ ¬c.LostInWriting := by
  obtain ⟨cs, hcs, rfl⟩ := map_eq_ok_iff.mp h
  obtain ⟨der, -, hder⟩ := exists_of_forall₂ (mapM_eq_ok_iff.mp hcs) hc
  refine ⟨.ofDer hder, fun hlost => ?_⟩
  have hnone := (PeerCertificate.IsRead.ofDer hder).ofDer?_der_eq_none_iff.mpr hlost
  obtain ⟨x, hx, -⟩ := PeerCertificate.ofDer_eq_ok_iff.mp (PeerCertificate.ofDer_of_ofDer hder)
  rw [hx] at hnone
  cases hnone

/-- Path validation can read every certificate of a chain that is read from encodings. -/
theorem TrustStore.validate_ne_unreadable {ders : List Bytes} {chain : PeerChain}
    (hders : PeerChain.ofDers ders = .ok chain) (store : TrustStore) (now : X509.Moment)
    (host : String) (der : Bytes) :
    store.validate now chain host ≠ .error (.unreadableLeaf der)
      ∧ store.validate now chain host ≠ .error (.unreadableIntermediate der) := by
  have hread (c : PeerCertificate) (hc : c ∈ chain.certificates) : c.IsRead :=
    (PeerChain.isRead_of_ofDers hders hc).1
  have hkept (c : PeerCertificate) (hc : c ∈ chain.certificates) : ¬c.LostInWriting :=
    (PeerChain.isRead_of_ofDers hders hc).2
  constructor
  · intro hfault
    obtain ⟨leaf, rest, hchain, hlost, -⟩ := (validate_eq_unreadableLeaf_iff hread).mp hfault
    exact hkept leaf (hchain ▸ List.mem_cons_self) hlost
  · intro hfault
    obtain ⟨leaf, rest, c, hchain, -, ⟨before, after, rfl, -, hlost⟩, -⟩ :=
      (validate_eq_unreadableIntermediate_iff hread).mp hfault
    exact hkept c (by simp [hchain]) hlost

/-- Building an engine from JSON fails with a fault of JSON or of building it. -/
theorem Engine.fault_of_ofJson {σ : Type} {around : Surroundings} {store : TrustStore}
    (hplatform : around.platform = .ok store) {json : String} {fault : EngineError}
    (h : (ofJson (σ := σ) around json).result = .error fault) :
    (∃ cause, fault = .json cause) ∨ (∃ cause, fault = .misconfigured cause)
      ∨ ∃ c a, PolicyConfig.ofJson json = .ok c ∧ c.Loses a
        ∧ fault = .certificate (.undecodable .certificate a.der) := by
  unfold ofJson at h
  split at h
  · rename_i c hc
    rcases fault_of_ofConfig hplatform h with ⟨cause, -, rfl⟩ | ⟨a, hlost, rfl⟩
    · exact .inr (.inl ⟨cause, rfl⟩)
    · exact .inr (.inr ⟨c, a, hc, hlost, rfl⟩)
  · rename_i cause _
    exact .inl ⟨cause, (Except.error.inj h).symm⟩

/-- Through the binding, faults of building an engine are told as the same kinds. -/
theorem Binding.fault_of_engine {σ : Type} {around : Surroundings} {store : TrustStore}
    (hplatform : around.platform = .ok store) {c : PolicyConfig} {fault : BindingError}
    (h : (engine (σ := σ) around c).result = .error fault) :
    (∃ message, fault = .misconfigured message)
      ∨ ∃ a, c.Loses a ∧ fault = .certificate
        ((CertificateFault.undecodable .certificate a.der).report around.diagnose) := by
  cases hengine : (Engine.ofConfig (σ := σ) around c).result with
  | ok e =>
    rw [engine_eq_ok_iff.mpr hengine] at h
    cases h
  | error cause =>
    rw [engine_of_error hengine] at h
    cases h
    rcases Engine.fault_of_ofConfig hplatform hengine with ⟨reason, -, rfl⟩ | ⟨a, hlost, rfl⟩
    · exact .inl ⟨_, rfl⟩
    · exact .inr ⟨a, hlost, rfl⟩

/-- Where the platform's certificates can be loaded, a configuration without a policy is told as a
misconfiguration, and for one with a policy there is an engine, unless an anchor was lost in
writing. So nothing else than a fault of JSON or a misconfiguration comes of building an engine,
and through the binding only the latter, with this one exception, which tells the octets of the first
such anchor. An engine that refuses a chain for path validation tells the fault of its store. In a
chain that was read from encodings this is never an unreadable certificate; in others it is one just
where one was lost in writing. -/
theorem configuration_faults {σ : Type} {around : Surroundings} {store : TrustStore}
    (hplatform : around.platform = .ok store) :
    (∀ c : PolicyConfig,
      (∀ cause, c.toPolicy.result = .error cause →
        (Engine.ofConfig (σ := σ) around c).result = .error (.misconfigured cause))
      ∧ ∀ policy, c.toPolicy.result = .ok policy →
        (Engine.ofConfig (σ := σ) around c).result = Engine.ofPolicy around policy
        ∧ ((∃ e : Engine σ, Engine.ofPolicy around policy = .ok e)
            ∧ (∀ a ∈ policy.anchors, ¬a.LostInWriting)
          ∨ ∃ a, PeerCertificate.FirstLost policy.anchors a
            ∧ Engine.ofPolicy (σ := σ) around policy
              = .error (.certificate (.undecodable .certificate a.der))))
    ∧ (∀ json fault, (Engine.ofJson (σ := σ) around json).result = .error fault →
      (∃ cause, fault = .json cause) ∨ (∃ cause, fault = .misconfigured cause)
      ∨ ∃ c a, PolicyConfig.ofJson json = .ok c ∧ c.Loses a
        ∧ fault = .certificate (.undecodable .certificate a.der))
    ∧ (∀ c fault, (Binding.engine (σ := σ) around c).result = .error fault →
      (∃ message, fault = .misconfigured message)
      ∨ ∃ a, c.Loses a ∧ fault = .certificate
        ((CertificateFault.undecodable .certificate a.der).report around.diagnose))
    ∧ (∀ policy (e : Engine σ), Engine.ofPolicy around policy = .ok e → ∀ now chain host s detail,
      (((e.verify now chain host).run s).1 = .rejected (.systemValidationFailed detail)
        ↔ chain.isEmpty = false ∧ ∃ store fault, Engine.storeFor around policy = .ok (some store)
          ∧ store.validate now chain host = .error fault
          ∧ fault.message around.diagnose = detail))
    ∧ ∀ (store : TrustStore) now chain host,
      (∀ ders, PeerChain.ofDers ders = .ok chain →
        ∀ der, store.validate now chain host ≠ .error (.unreadableLeaf der)
          ∧ store.validate now chain host ≠ .error (.unreadableIntermediate der))
      ∧ ((∀ c ∈ chain.certificates, c.IsRead) → ∀ der,
        (store.validate now chain host = .error (.unreadableLeaf der)
          ↔ ∃ leaf rest, chain.certificates = leaf :: rest ∧ leaf.LostInWriting
            ∧ leaf.der = der)
        ∧ (store.validate now chain host = .error (.unreadableIntermediate der)
          ↔ ∃ leaf rest c, chain.certificates = leaf :: rest ∧ ¬leaf.LostInWriting
            ∧ PeerCertificate.FirstLost rest c ∧ c.der = der)) := by
  refine ⟨fun c => ⟨fun cause => Engine.ofConfig_of_error, fun policy hpolicy => ?_⟩,
    fun json fault => Engine.fault_of_ofJson hplatform,
    fun c fault => Binding.fault_of_engine hplatform,
    fun policy e he now chain host s detail => Engine.verify_eq_systemValidationFailed_iff he s,
    fun store now chain host => ⟨fun ders hders der => ?_, fun hread der => ⟨?_, ?_⟩⟩⟩
  · exact ⟨Engine.ofConfig_of_ok hpolicy, Engine.ofPolicy_of_toPolicy hplatform hpolicy⟩
  · exact TrustStore.validate_ne_unreadable hders store now host der
  · exact TrustStore.validate_eq_unreadableLeaf_iff hread
  · exact TrustStore.validate_eq_unreadableIntermediate_iff hread

/-- A misconfiguration, a fault of JSON, and an engine that refuses a chain which it can read. -/
theorem configuration_faults_specimen :
    ∃ (around : Surroundings) (store : TrustStore) (e : Engine Unit) (now : X509.Moment)
      (chain : PeerChain) (s : Session Unit) (fault : ValidationFault),
      around.platform = .ok store
      ∧ (Engine.ofConfig (σ := Unit) around (.ofVariant .pinnedCertificate)).result
        = .error (.misconfigured (.missing "authority"))
      ∧ (∃ fault, (Binding.engine (σ := Unit) around (.ofVariant .pinnedCertificate)).result
          = .error fault
        ∧ ∃ message, fault = .misconfigured message)
      ∧ (∃ fault, (Engine.ofJson (σ := Unit) around "").result = .error fault
        ∧ ∃ cause, fault = .json cause)
      ∧ (Engine.ofConfig around .secure).result = .ok e
      ∧ ((e.verify now chain "a").run s).1
        = .rejected (.systemValidationFailed (fault.message around.diagnose))
      ∧ store.validate now chain "a" = .error fault
      ∧ ∀ der, fault ≠ .unreadableLeaf der := by
  let around : Surroundings := ⟨.ok ⟨.platform, []⟩, fun _ _ => "no structure"⟩
  let now := X509.Moment.of 2026 1 1 0 0 0
  have hrun : ∃ chain ∈ (PeerChain.ofDers [Specimen.certificate [Utf8.encodeString "a"]]).toOption,
      chain.isEmpty = false
      ∧ (TrustStore.validate ⟨.platform, []⟩ now chain "a").toOption = none := by
    decide +kernel
  obtain ⟨chain, hchain, hne, hinvalid⟩ := hrun
  obtain ⟨fault, hfault⟩ := toOption_eq_none_iff.mp hinvalid
  have hders := eq_ok_of_mem_toOption hchain
  obtain ⟨hconfigs, hjson, hbinding, hengines, hstores⟩ :=
    configuration_faults (σ := Unit) (show around.platform = .ok _ from rfl)
  refine ⟨around, _, _, now, chain, .start (), fault, rfl, (hconfigs _).1 _ rfl, ?_, ?_,
    ((hconfigs .secure).2 _ rfl).1, ?_, hfault, fun der hleaf => ?_⟩
  · refine ⟨_, rfl, ?_⟩
    rcases hbinding (.ofVariant .pinnedCertificate) _ rfl with hmessage | ⟨a, -, hother⟩
    · exact hmessage
    · cases hother
  · refine ⟨_, rfl, ?_⟩
    rcases hjson "" _ rfl with hcause | ⟨_, hother⟩ | ⟨_, _, -, -, hother⟩
    · exact hcause
    · cases hother
    · cases hother
  · exact (hengines (.systemDefault none) _ rfl now chain "a" (.start ()) _).mpr
      ⟨hne, _, fault, rfl, hfault, rfl⟩
  · exact ((hstores _ now chain "a").1 _ hders der).1 (hleaf ▸ hfault)

/-- An anchor that was lost in writing is a policy's, but no engine can be built for it; and a leaf
that was is told to be unreadable. -/
theorem configuration_faults_lost :
    ∃ (around : Surroundings) (store : TrustStore) (c : PolicyConfig) (policy : TrustPolicy)
      (e : Engine Unit) (leaf : PeerCertificate) (now : X509.Moment) (s : Session Unit),
      around.platform = .ok store
      ∧ c.toPolicy.result = .ok policy
      ∧ Engine.ofPolicy (σ := Unit) around policy
        = .error (.certificate (.undecodable .certificate leaf.der))
      ∧ (Binding.engine (σ := Unit) around c).result = .error (.certificate
        ((CertificateFault.undecodable .certificate leaf.der).report around.diagnose))
      ∧ Engine.ofPolicy around (.systemDefault none) = .ok e
      ∧ leaf.IsRead
      ∧ ((e.verify now ⟨[leaf]⟩ "a").run s).1 = .rejected (.systemValidationFailed
        ((ValidationFault.unreadableLeaf leaf.der).message around.diagnose)) := by
  let around : Surroundings := ⟨.ok ⟨.platform, []⟩, fun _ _ => "no structure"⟩
  let now := X509.Moment.of 2026 1 1 0 0 0
  let text : String := Specimen.armour (Specimen.certificateBy Specimen.markedAlgorithm)
  let c : PolicyConfig := { PolicyConfig.secure with anchors := some text }
  obtain ⟨leaf, hbundle, hlost⟩ := PeerCertificate.bundle_markedAlgorithm
  have hread : leaf.IsRead := .bundle hbundle List.mem_cons_self
  have hpolicy : c.toPolicy.result = .ok (.systemDefault (some [leaf])) := by
    change ((PeerCertificate.bundle (Utf8.encodeString text)).mapError _).bind _ = _
    rw [hbundle]
    rfl
  have hfault : Engine.ofPolicy (σ := Unit) around (.systemDefault (some [leaf]))
      = .error (.certificate (.undecodable .certificate leaf.der)) := by
    have hunread : TrustStore.readAll [leaf] = .error leaf.der := by
      refine (TrustStore.readAll_eq_error_iff ?_).mpr ⟨leaf, ⟨[], [], rfl, nofun, hlost⟩, rfl⟩
      exact List.forall_mem_singleton.mpr hread
    rw [Engine.ofPolicy, Engine.storeFor, TrustStore.ofAnchors, hunread]
    rfl
  refine ⟨around, _, c, _, _, leaf, now, .start (), rfl, hpolicy, hfault, ?_, rfl, hread, ?_⟩
  · exact Binding.engine_of_error ((Engine.ofConfig_of_ok hpolicy).trans hfault)
  · have hbound : Engine.ofPolicy (σ := Unit) around (.systemDefault none) = .ok _ := rfl
    refine (Engine.verify_eq_systemValidationFailed_iff hbound (.start ())).mpr
      ⟨rfl, _, _, rfl, ?_, rfl⟩
    refine (TrustStore.validate_eq_unreadableLeaf_iff ?_).mpr ⟨leaf, [], rfl, hlost, rfl⟩
    exact List.forall_mem_singleton.mpr hread

end PeerTrust
