import PeerTrust.Proofs.Config.Given
import PeerTrust.Proofs.EntryPoints

/-!
# Who switches verification off

Trust in every chain is the one policy that accepts an empty chain, so an empty chain tells whether
an engine verifies at all. An engine that was built from a configuration does not verify exactly
when the configuration says so twice: by its kind and by a debug build. For every other kind the
build mode is never looked at.

Engines that are bound to a policy directly are not covered: a policy of trust in every chain is
only made for debug builds, but the policy does not say so afterwards.
-/

namespace PeerTrust

namespace TrustPolicy

variable {p : TrustPolicy}

/-- Trust in every chain is made for debug builds only. -/
theorem ofTrustAll_eq_ok_iff {mode : BuildMode} :
    (ofTrustAll mode).result = .ok p ↔ mode = .debug ∧ p = trustAll := by
  cases mode <;> simp [ofTrustAll, eq_comm]

/-- The kind by which a configuration names a policy. -/
def variant : TrustPolicy → PolicyVariant
  | systemDefault _ => .systemDefault
  | trustAll => .trustAll
  | pinnedCertificate _ => .pinnedCertificate
  | pinnedDigest .. => .pinnedDigest
  | pinnedPublicKey _ => .pinnedPublicKey

theorem isTrustAll_eq_false (h : p.variant ≠ .trustAll) : p.isTrustAll = false := by
  cases p with
  | trustAll => exact absurd rfl h
  | systemDefault _ | pinnedCertificate _ | pinnedDigest _ _ | pinnedPublicKey _ => rfl

theorem variant_ofAnchors {anchors : List PeerCertificate} (h : ofAnchors anchors = .ok p) :
    p.variant = .systemDefault := by
  unfold ofAnchors at h
  split at h <;> cases h
  rfl

theorem variant_ofDigestText {pattern pin : String} (h : ofDigestText pattern pin = .ok p) :
    p.variant = .pinnedDigest := by
  obtain ⟨_, -, h⟩ := bind_eq_ok_iff.mp h
  obtain ⟨_, -, h⟩ := bind_eq_ok_iff.mp h
  cases h
  rfl

theorem variant_ofKeys {keys : List PublicKey} (h : ofKeys keys = .ok p) :
    p.variant = .pinnedPublicKey := by
  unfold ofKeys at h
  dsimp only at h
  split at h <;> cases h
  rfl

end TrustPolicy

namespace PolicyConfig

variable {c : PolicyConfig}

/-- The policy of a configuration is of the kind that the configuration names. -/
theorem variant_toPolicy {p : TrustPolicy} (h : c.toPolicy.result = .ok p) :
    p.variant = c.variant := by
  unfold toPolicy at h
  cases hkind : c.variant with
  | trustAll =>
    rw [hkind] at h
    obtain ⟨-, rfl⟩ := TrustPolicy.ofTrustAll_eq_ok_iff.mp h
    rfl
  | systemDefault =>
    rw [hkind] at h
    change systemPolicy _ = _ at h
    unfold systemPolicy at h
    split at h
    · obtain ⟨_, -, h⟩ := bind_eq_ok_iff.mp h
      exact TrustPolicy.variant_ofAnchors h
    · cases h
      rfl
  | pinnedCertificate =>
    rw [hkind] at h
    obtain ⟨_, -, h⟩ := bind_eq_ok_iff.mp h
    obtain ⟨_, -, h⟩ := bind_eq_ok_iff.mp h
    cases h
    rfl
  | pinnedDigest =>
    rw [hkind] at h
    obtain ⟨_, -, h⟩ := bind_eq_ok_iff.mp h
    obtain ⟨_, -, h⟩ := bind_eq_ok_iff.mp h
    exact TrustPolicy.variant_ofDigestText h
  | pinnedPublicKey =>
    rw [hkind] at h
    obtain ⟨_, -, h⟩ := bind_eq_ok_iff.mp h
    exact TrustPolicy.variant_ofKeys h

/-- The policy of a configuration accepts every chain exactly when the configuration says so by its
kind and is one for debug builds. -/
theorem isTrustAll_toPolicy {p : TrustPolicy} (h : c.toPolicy.result = .ok p) :
    p.isTrustAll ↔ c.variant = .trustAll ∧ c.buildMode = .debug := by
  by_cases hvariant : c.variant = .trustAll
  · unfold toPolicy at h
    rw [hvariant] at h
    obtain ⟨hmode, rfl⟩ := TrustPolicy.ofTrustAll_eq_ok_iff.mp h
    exact iff_of_true rfl ⟨hvariant, hmode⟩
  · rw [TrustPolicy.isTrustAll_eq_false (variant_toPolicy h ▸ hvariant)]
    exact iff_of_false Bool.false_ne_true fun hoff => hvariant hoff.1

/-- The build mode has a say in trust in every chain only. -/
theorem toPolicy_buildMode (hvariant : c.variant ≠ .trustAll) (mode : BuildMode) :
    { c with buildMode := mode }.toPolicy = c.toPolicy := by
  unfold toPolicy
  cases h : c.variant with
  | trustAll => exact absurd h hvariant
  | systemDefault | pinnedCertificate | pinnedDigest | pinnedPublicKey => rfl

end PolicyConfig

namespace Engine

variable {σ : Type} {around : Surroundings} {e : Engine σ} {c : PolicyConfig}

theorem isTrustAll_ofConfig (h : (ofConfig around c).result = .ok e) :
    e.policy.isTrustAll ↔ c.variant = .trustAll ∧ c.buildMode = .debug := by
  obtain ⟨p, hpolicy, he⟩ := ofConfig_eq_ok_iff.mp h
  rw [policy_ofPolicy he]
  exact PolicyConfig.isTrustAll_toPolicy hpolicy

theorem isTrustAll_of_release (h : (ofConfig around c).result = .ok e) (hmode : c.buildMode = .release) :
    e.policy.isTrustAll = false := by
  rw [← Bool.not_eq_true, isTrustAll_ofConfig h]
  rintro ⟨-, hdebug⟩
  rw [hmode] at hdebug
  cases hdebug

theorem verify_none_ofConfig (h : (ofConfig around c).result = .ok e) (now : X509.Moment)
    (host : String) (s : Session σ) :
    ((e.verify now ⟨[]⟩ host).run s).1 =
      if c.variant = .trustAll ∧ c.buildMode = .debug then .accepted
      else .rejected .emptyChain := by
  rw [verify_of_isEmpty e rfl]
  simp only [isTrustAll_ofConfig h]

theorem ofConfig_buildMode (around : Surroundings) (hvariant : c.variant ≠ .trustAll)
    (mode : BuildMode) :
    ofConfig (σ := σ) around { c with buildMode := mode } = ofConfig around c := by
  unfold ofConfig
  rw [PolicyConfig.toPolicy_buildMode hvariant]

/-- An engine for a text is one for the configuration that the text holds. -/
theorem ofJson_eq_ok_iff {json : String} :
    (ofJson around json).result = .ok e
      ↔ ∃ c, PolicyConfig.ofJson json = .ok c ∧ (ofConfig around c).result = .ok e := by
  unfold ofJson
  cases PolicyConfig.ofJson json <;> simp

end Engine

namespace Binding

variable {σ : Type} {c : Config}

theorem Config.variant_toPolicyConfig :
    c.toPolicyConfig.variant = .trustAll ↔ c.variant = .trustAll := by
  unfold toPolicyConfig
  cases c.variant <;> simp [Variant.toPolicyVariant]

theorem Config.buildMode_toPolicyConfig :
    c.toPolicyConfig.buildMode = .debug ↔ c.buildMode = .debug := by
  unfold toPolicyConfig
  cases c.buildMode <;> simp [Build.toBuildMode]

theorem engine_buildMode (around : Surroundings) (hvariant : c.variant ≠ .trustAll)
    (mode : Build) :
    engine (σ := σ) around { c with buildMode := mode }.toPolicyConfig
      = engine around c.toPolicyConfig := by
  have hother : c.toPolicyConfig.variant ≠ .trustAll := by
    rwa [Ne, Config.variant_toPolicyConfig]
  exact congrArg (Built.mapError (BindingError.ofEngine around.diagnose))
    (Engine.ofConfig_buildMode around hother mode.toBuildMode)

end Binding

/-- Only a debug configuration of trust in every chain switches verification off: an empty chain is
accepted by an engine for such a configuration and rejected as empty by every other engine, whether
the configuration is read from a text or comes through the binding. Where the build mode is release,
or the text gives none, no engine trusts every chain. For all other kinds of policy the build mode
changes nothing about the engine, nor about what is logged of building it. -/
theorem verification_off_only_in_debug {σ : Type} (around : Surroundings) :
    (∀ json (e : Engine σ), (Engine.ofJson around json).result = .ok e →
      ∃ c, PolicyConfig.ofJson json = .ok c
        ∧ (∀ now host s, ((e.verify now ⟨[]⟩ host).run s).1 =
            if c.variant = .trustAll ∧ c.buildMode = .debug then .accepted
            else .rejected .emptyChain)
        ∧ (c.buildMode = .release ∨ .buildMode ∉ PolicyConfig.given json.toList →
            e.policy.isTrustAll = false))
    ∧ (∀ (c : Binding.Config) (e : Engine σ),
        (Binding.engine around c.toPolicyConfig).result = .ok e →
        (∀ now host s, ((Binding.verify around e now [] host).run s).1 = .ok (.ofVerdict
            (if c.variant = .trustAll ∧ c.buildMode = .debug then .accepted
            else .rejected .emptyChain)))
        ∧ (c.buildMode = .release → e.policy.isTrustAll = false))
    ∧ (∀ json json' c mode, PolicyConfig.ofJson json = .ok c →
        PolicyConfig.ofJson json' = .ok { c with buildMode := mode } → c.variant ≠ .trustAll →
        Engine.ofJson (σ := σ) around json' = Engine.ofJson around json)
    ∧ ∀ (c : Binding.Config) mode, c.variant ≠ .trustAll →
        Binding.engine (σ := σ) around { c with buildMode := mode }.toPolicyConfig
          = Binding.engine around c.toPolicyConfig := by
  refine ⟨?_, ?_, ?_, fun c mode hvariant => Binding.engine_buildMode around hvariant mode⟩
  · intro json e h
    obtain ⟨c, hread, hengine⟩ := Engine.ofJson_eq_ok_iff.mp h
    refine ⟨c, hread, Engine.verify_none_ofConfig hengine, fun hmode =>
      Engine.isTrustAll_of_release hengine ?_⟩
    obtain ⟨-, -, -, -, -, -, hdefault⟩ := PolicyConfig.default_of_not_given hread
    exact hmode.elim id hdefault
  · intro c e h
    have hengine := Binding.engine_eq_ok_iff.mp h
    refine ⟨fun now host s => ?_, fun hmode => Engine.isTrustAll_of_release hengine ?_⟩
    · have hverdict := Engine.verify_none_ofConfig hengine now host s
      simp only [Binding.Config.variant_toPolicyConfig, Binding.Config.buildMode_toPolicyConfig]
        at hverdict
      rw [← hverdict]
      rfl
    · exact congrArg Binding.Build.toBuildMode hmode
  · intro json json' c mode hread hread' hvariant
    unfold Engine.ofJson
    rw [hread, hread']
    exact Engine.ofConfig_buildMode around hvariant mode

/-- A debug configuration of trust in every chain switches verification off. A list of one value
gives no build mode and does not, nor does a text for the default policy, for which a debug build
changes nothing. -/
theorem verification_off_specimen :
    ∃ (around : Surroundings) (now : X509.Moment) (s : Session Unit),
      (∃ e, (Engine.ofJson around
            { PolicyConfig.ofVariant .trustAll with buildMode := .debug }.toJson).result = .ok e
          ∧ ((e.verify now ⟨[]⟩ "example.com").run s).1 = .accepted)
      ∧ (∃ e : Engine Unit, (Engine.ofJson around "[\"SystemDefault\"]").result = .ok e
          ∧ .buildMode ∉ PolicyConfig.given "[\"SystemDefault\"]".toList
          ∧ e.policy.isTrustAll = false)
      ∧ (∃ e, (Binding.engine around
            (Binding.Config.mk .systemDefault none none none [] none .debug).toPolicyConfig).result
              = .ok e
          ∧ ((Binding.verify around e now [] "example.com").run s).1
            = .ok (.ofVerdict (.rejected .emptyChain)))
      ∧ Engine.ofJson (σ := Unit) around { PolicyConfig.secure with buildMode := .debug }.toJson
          = Engine.ofJson around "[\"SystemDefault\"]" := by
  let around : Surroundings := ⟨.ok ⟨.platform, []⟩, fun _ _ => "no structure"⟩
  obtain ⟨hjson, hbinding, hmode, -⟩ := verification_off_only_in_debug (σ := Unit) around
  have hoff : PolicyConfig.ofJson
      { PolicyConfig.ofVariant .trustAll with buildMode := .debug }.toJson
        = .ok { PolicyConfig.ofVariant .trustAll with buildMode := .debug } := by
    decide +kernel
  have hlist : PolicyConfig.ofJson "[\"SystemDefault\"]" = .ok .secure := by decide +kernel
  have habsent : .buildMode ∉ PolicyConfig.given "[\"SystemDefault\"]".toList := by
    decide +kernel
  have hdebug : PolicyConfig.ofJson { PolicyConfig.secure with buildMode := .debug }.toJson
      = .ok { PolicyConfig.secure with buildMode := .debug } := by
    decide +kernel
  refine ⟨around, .of 2026 1 1 0 0 0, .start (),
    ⟨⟨.trustAll, none⟩, Engine.ofJson_eq_ok_iff.mpr ⟨_, hoff, rfl⟩, ?_⟩,
    ⟨_, Engine.ofJson_eq_ok_iff.mpr ⟨_, hlist, rfl⟩, habsent, ?_⟩,
    ⟨_, rfl, (hbinding ⟨.systemDefault, none, none, none, [], none, .debug⟩ _ rfl).1 _ _ _⟩,
    hmode _ _ _ _ hlist hdebug (by decide)⟩
  · obtain ⟨c, hread, hverdict, -⟩ := hjson _ _ (Engine.ofJson_eq_ok_iff.mpr ⟨_, hoff, rfl⟩)
    cases hoff.symm.trans hread
    exact hverdict _ _ _
  · obtain ⟨_, -, -, hrelease⟩ := hjson _ _ (Engine.ofJson_eq_ok_iff.mpr ⟨_, hlist, rfl⟩)
    exact hrelease (.inr habsent)

end PeerTrust
