import PeerTrust.Proofs.Equality
import PeerTrust.Proofs.KeySpelling
import PeerTrust.Proofs.Pinning

/-!
# The keys of a configuration as a set

A list of texts makes a policy of keys if there is a text and each of them is readable, and the
first that is not fails the whole. Of a list that does, only the keys that its texts stand for
count: neither their order, nor how often one is listed, nor which of its spellings is used.
-/

namespace PeerTrust

namespace PolicyConfig

variable {c d : PolicyConfig}

/-- Whether every text of a list can be read as a key. -/
def AllReadable (texts : List String) : Prop :=
  ∀ text ∈ texts, ∃ k, readKey text = .ok k

/-- Whether a list of texts stands for a key, among others. -/
def Denotes (texts : List String) (k : PublicKey) : Prop :=
  ∃ text ∈ texts, readKey text = .ok k

/-- Keys that were read one by one are those that the texts stand for. -/
theorem mem_iff_denotes {texts : List String} {keys : List PublicKey}
    (h : texts.mapM readKey = .ok keys) (k : PublicKey) : k ∈ keys ↔ Denotes texts k := by
  have hread := mapM_eq_ok_iff.mp h
  constructor
  · exact exists_of_forall₂ hread
  · rintro ⟨text, htext, hk⟩
    obtain ⟨k', hmem, hk'⟩ := exists_image_of_forall₂ hread htext
    obtain rfl := Except.ok.inj (hk.symm.trans hk')
    exact hmem

theorem exists_mapM_iff {texts : List String} :
    (∃ keys, texts.mapM readKey = .ok keys) ↔ AllReadable texts := by
  refine ⟨?_, exists_mapM_of_forall⟩
  rintro ⟨keys, hkeys⟩ text htext
  obtain ⟨k, -, hk⟩ := exists_image_of_forall₂ (mapM_eq_ok_iff.mp hkeys) htext
  exact ⟨k, hk⟩

/-- A text that is no key is a fault of the member that lists it. -/
theorem exists_cause_of_readKey {text : String} {fault : PolicyFault}
    (h : readKey text = .error fault) : ∃ cause, fault = .unreadable "trustedKeys" cause := by
  obtain ⟨cause, -, rfl⟩ := mapError_eq_error_iff.mp h
  exact ⟨cause, rfl⟩

/-- A list of keys has a fault if it is empty, or the fault of the first text that is no key. -/
theorem toPolicy_keys_eq_error_iff (hvariant : c.variant = .pinnedPublicKey) {fault : PolicyFault} :
    c.toPolicy.result = .error fault ↔ c.trustedKeys = [] ∧ fault = .noKeys
      ∨ ∃ before text after, c.trustedKeys = before ++ text :: after ∧ AllReadable before
        ∧ readKey text = .error fault := by
  rw [toPolicy, hvariant]
  refine bind_eq_error_iff.trans (Or.comm.trans (or_congr ?_ mapM_eq_error_iff))
  constructor
  · rintro ⟨keys, hkeys, hfault⟩
    rw [TrustPolicy.ofKeys] at hfault
    split at hfault
    · rename_i hempty
      rw [KeySet.isEmpty_ofList, List.isEmpty_iff] at hempty
      rw [hempty, mapM_eq_ok_iff, List.forall₂_nil_right_iff] at hkeys
      exact ⟨hkeys, (Except.error.inj hfault).symm⟩
    · cases hfault
  · rintro ⟨hnone, rfl⟩
    rw [hnone]
    exact ⟨[], rfl, rfl⟩

theorem exists_toPolicy_keys_iff (hvariant : c.variant = .pinnedPublicKey) :
    (∃ p, c.toPolicy.result = .ok p) ↔ c.trustedKeys ≠ [] ∧ AllReadable c.trustedKeys := by
  constructor
  · rintro ⟨p, hp⟩
    obtain ⟨keys, hkeys, hne, -⟩ := (toPolicy_keys_eq_ok_iff hvariant).mp hp
    refine ⟨fun hnone => hne ?_, exists_mapM_iff.mp ⟨keys, hkeys⟩⟩
    rwa [hnone, mapM_eq_ok_iff, List.forall₂_nil_left_iff] at hkeys
  · rintro ⟨hne, hall⟩
    obtain ⟨keys, hkeys⟩ := exists_mapM_iff.mpr hall
    refine ⟨_, (toPolicy_keys_eq_ok_iff hvariant).mpr ⟨keys, hkeys, fun hnone => hne ?_, rfl⟩⟩
    rwa [hnone, mapM_eq_ok_iff, List.forall₂_nil_right_iff] at hkeys

/-- A text that is no key is enough for a fault, wherever it is listed. -/
theorem exists_error_of_readKey (hvariant : c.variant = .pinnedPublicKey) {text : String}
    (htext : text ∈ c.trustedKeys) {fault : PolicyFault} (h : readKey text = .error fault) :
    ∃ found, c.toPolicy.result = .error found := by
  cases hpolicy : c.toPolicy.result with
  | error found => exact ⟨found, rfl⟩
  | ok p =>
    obtain ⟨-, hall⟩ := (exists_toPolicy_keys_iff hvariant).mp ⟨p, hpolicy⟩
    obtain ⟨k, hk⟩ := hall text htext
    rw [h] at hk
    cases hk

/-- The keys of a policy are those that the texts stand for. -/
theorem exists_keys_of_toPolicy (hvariant : c.variant = .pinnedPublicKey) {p : TrustPolicy}
    (hp : c.toPolicy.result = .ok p) :
    ∃ keys, p = .pinnedPublicKey keys ∧ ∀ k, k ∈ keys.keys ↔ Denotes c.trustedKeys k := by
  obtain ⟨keys, hkeys, -, rfl⟩ := (toPolicy_keys_eq_ok_iff hvariant).mp hp
  exact ⟨_, rfl, fun k => KeySet.mem_ofList.trans (mem_iff_denotes hkeys k)⟩

/-- Once its texts are read, a list makes the policy of the keys. -/
theorem toPolicy_of_read (hvariant : c.variant = .pinnedPublicKey) {keys : List PublicKey}
    (hkeys : c.trustedKeys.mapM readKey = .ok keys) :
    c.toPolicy = ⟨TrustPolicy.ofKeys keys, []⟩ := by
  rw [toPolicy, hvariant]
  dsimp only
  rw [keyPolicy, hkeys]
  rfl

/-- Readable lists that stand for the same keys make the same policy, or neither makes one. -/
theorem toPolicy_congr_of_denotes (hc : c.variant = .pinnedPublicKey)
    (hd : d.variant = .pinnedPublicKey) (hallC : AllReadable c.trustedKeys)
    (hallD : AllReadable d.trustedKeys)
    (hsame : ∀ k, Denotes c.trustedKeys k ↔ Denotes d.trustedKeys k) :
    c.toPolicy = d.toPolicy := by
  obtain ⟨ks, hks⟩ := exists_mapM_iff.mpr hallC
  obtain ⟨ls, hls⟩ := exists_mapM_iff.mpr hallD
  have hmem (k : PublicKey) : k ∈ ks ↔ k ∈ ls := by
    rw [mem_iff_denotes hks, mem_iff_denotes hls, hsame]
  have hset : KeySet.ofList ks = KeySet.ofList ls := by
    refine KeySet.eq_iff_contains.mpr fun k => ?_
    rw [Bool.eq_iff_iff, KeySet.contains, KeySet.contains, List.contains_iff_mem,
      List.contains_iff_mem, KeySet.mem_ofList, KeySet.mem_ofList, hmem]
  rw [toPolicy_of_read hc hks, toPolicy_of_read hd hls, TrustPolicy.ofKeys, TrustPolicy.ofKeys, hset]

end PolicyConfig

namespace Engine

/-- A chain is accepted for keys when one of its certificates has one of them. -/
theorem verify_keys {σ : Type} {e : Engine σ} {keys : KeySet}
    (h : e.policy = .pinnedPublicKey keys) (now : X509.Moment) (chain : PeerChain) (host : String)
    (s : Session σ) : ((e.verify now chain host).run s).1 = .accepted
      ↔ ∃ cert ∈ chain.certificates, cert.publicKey ∈ keys.keys := by
  by_cases hempty : chain.certificates = []
  · rw [e.verify_of_isEmpty (List.isEmpty_iff.mpr hempty), h, hempty]
    exact iff_of_false nofun nofun
  · have hpin : e.policy.IsPin := by
      rw [h]
      trivial
    obtain ⟨pinned, reason, htest, -, hverify⟩ := e.exists_test host hpin
    have hsatisfied (cert : PeerCertificate) : pinned cert = true ↔ cert.publicKey ∈ keys.keys := by
      rw [htest, h]
      rfl
    rw [hverify now chain s hempty]
    simp [hsatisfied]

end Engine

/-- A policy is made of a list of texts exactly if there is a text and each of them is a key, and
then its keys are those that the texts stand for, so that it accepts a chain exactly if some
certificate has one of them. The first text that is no key makes the whole misconfigured, with a
fault of the member that lists it. A text stands for each key that it spells in digits or armour.
Readable lists that stand for the same keys make policies that compare equal and judge every chain
alike, in one call and by an engine, or else none of them makes a policy. -/
theorem PolicyConfig.trustedKeys_denote {σ : Type} (c : PolicyConfig)
    (hc : c.variant = .pinnedPublicKey) :
    ((∃ p, c.toPolicy.result = .ok p) ↔ c.trustedKeys ≠ [] ∧ AllReadable c.trustedKeys)
    ∧ (∀ p, c.toPolicy.result = .ok p →
      ∃ keys, p = .pinnedPublicKey keys ∧ (∀ k, k ∈ keys.keys ↔ Denotes c.trustedKeys k)
        ∧ ∀ around (e : Engine σ), Engine.ofPolicy around p = .ok e → ∀ now chain host s,
          (((e.verify now chain host).run s).1 = .accepted
            ↔ ∃ cert ∈ chain.certificates, Denotes c.trustedKeys cert.publicKey))
    ∧ (c.trustedKeys = [] → ∀ around,
      (Engine.ofConfig (σ := σ) around c).result = .error (.misconfigured .noKeys))
    ∧ (∀ text ∈ c.trustedKeys, ∀ fault, readKey text = .error fault →
      ∃ before first after cause, c.trustedKeys = before ++ first :: after ∧ AllReadable before
        ∧ readKey first = .error (.unreadable "trustedKeys" cause)
        ∧ ∀ around, (Engine.ofConfig (σ := σ) around c).result
          = .error (.misconfigured (.unreadable "trustedKeys" cause)))
    ∧ (∀ k : PublicKey, k.IsRead → ∀ text ∈ c.trustedKeys,
      k.IsDigits text ∨ text = k.armour → Denotes c.trustedKeys k)
    ∧ ∀ d : PolicyConfig, d.variant = .pinnedPublicKey → AllReadable c.trustedKeys →
      AllReadable d.trustedKeys → (∀ k, Denotes c.trustedKeys k ↔ Denotes d.trustedKeys k) →
      c.toPolicy = d.toPolicy
      ∧ (∀ p q, c.toPolicy.result = .ok p → d.toPolicy.result = .ok q → (p == q) = true
        ∧ ∀ around now chain host,
          verifyChain (σ := σ) around p now chain host = verifyChain around q now chain host)
      ∧ ∀ around, Engine.ofConfig (σ := σ) around c = Engine.ofConfig around d := by
  refine ⟨exists_toPolicy_keys_iff hc, fun p hp => ?_, fun hnone around => ?_,
    fun text hlisted fault htext => ?_, fun k hk text htext hspells => ?_,
    fun d hd hallC hallD hsame => ?_⟩
  · obtain ⟨keys, rfl, hkeys⟩ := exists_keys_of_toPolicy hc hp
    refine ⟨keys, rfl, hkeys, fun around e he now chain host s => ?_⟩
    rw [Engine.verify_keys (Engine.policy_ofPolicy he)]
    simp only [hkeys]
  · exact Engine.ofConfig_of_error ((toPolicy_keys_eq_error_iff hc).mpr (.inl ⟨hnone, rfl⟩))
  · obtain ⟨found, hfound⟩ := exists_error_of_readKey hc hlisted htext
    rcases (toPolicy_keys_eq_error_iff hc).mp hfound with ⟨hnone, -⟩ | hfirst
    · rw [hnone] at hlisted
      cases hlisted
    · obtain ⟨before, first, after, hsplit, hbefore, hfirst⟩ := hfirst
      obtain ⟨cause, rfl⟩ := exists_cause_of_readKey hfirst
      exact ⟨before, first, after, cause, hsplit, hbefore, hfirst,
        fun around => Engine.ofConfig_of_error hfound⟩
  · rcases hspells with hdigits | rfl
    · exact ⟨text, htext, hk.readKey_digits hdigits⟩
    · exact ⟨_, htext, hk.readKey_armour⟩
  · have hpolicy := toPolicy_congr_of_denotes hc hd hallC hallD hsame
    refine ⟨hpolicy, fun p q hp hq => ?_, fun around => ?_⟩
    · rw [hpolicy] at hp
      obtain rfl := Except.ok.inj (hp.symm.trans hq)
      obtain ⟨keys, rfl, -⟩ := exists_keys_of_toPolicy hd hp
      exact ⟨TrustPolicy.beq_eq_true_iff.mpr (.keys fun _ => rfl), fun _ _ _ _ => rfl⟩
    · rw [Engine.ofConfig, Engine.ofConfig, hpolicy]

/-- A key in digits makes the policy that it makes when it is listed twice in armour around its
digits. With a text behind it that is no key it makes none, and neither does an empty list. -/
theorem PolicyConfig.trustedKeys_denote_specimen :
    ∃ (k : PublicKey) (c d bad : PolicyConfig) (p q : TrustPolicy),
      c.trustedKeys = [k.hex] ∧ d.trustedKeys = [k.armour, k.hex, k.armour]
      ∧ bad.trustedKeys = [k.hex, "x", k.hex]
      ∧ c.toPolicy.result = .ok p ∧ d.toPolicy.result = .ok q ∧ (p == q) = true
      ∧ (∀ around now chain host,
        verifyChain (σ := Unit) around p now chain host = verifyChain around q now chain host)
      ∧ (∃ cause, ∀ around, (Engine.ofConfig (σ := Unit) around bad).result
        = .error (.misconfigured (.unreadable "trustedKeys" cause)))
      ∧ ∀ around, (Engine.ofConfig (σ := Unit) around (ofVariant .pinnedPublicKey)).result
        = .error (.misconfigured .noKeys) := by
  obtain ⟨cert, _, hcert, -, -⟩ := PeerCertificate.bundle_specimen
  let k := cert.publicKey
  have hk : k.IsRead := .ofCertificate (.ofDer hcert)
  let listing (texts : List String) : PolicyConfig :=
    { ofVariant .pinnedPublicKey with trustedKeys := texts }
  have hhex : readKey k.hex = .ok k := hk.readKey_digits k.isDigits_hex
  have harmour : readKey k.armour = .ok k := hk.readKey_armour
  have hbad : readKey "x" = .error (.unreadable "trustedKeys" (.invalidHexKey .oddLength)) :=
    rfl
  have hallC : AllReadable [k.hex] := by simpa [AllReadable] using ⟨k, hhex⟩
  have hallD : AllReadable [k.armour, k.hex, k.armour] := by
    intro text htext
    simp only [List.mem_cons, List.not_mem_nil, or_false] at htext
    rcases htext with rfl | rfl | rfl
    · exact ⟨k, harmour⟩
    · exact ⟨k, hhex⟩
    · exact ⟨k, harmour⟩
  obtain ⟨hmade, -, -, -, -, hsame⟩ := trustedKeys_denote (σ := Unit) (listing [k.hex]) rfl
  obtain ⟨-, -, -, hfirst, -, -⟩ :=
    trustedKeys_denote (σ := Unit) (listing [k.hex, "x", k.hex]) rfl
  obtain ⟨-, -, hnone, -, -, -⟩ :=
    trustedKeys_denote (σ := Unit) (ofVariant .pinnedPublicKey) rfl
  obtain ⟨hpolicy, hequal, -⟩ := hsame (listing [k.armour, k.hex, k.armour]) rfl hallC hallD
    fun k' => by simp [listing, Denotes, hhex, harmour]
  obtain ⟨p, hp⟩ := hmade.mpr ⟨List.cons_ne_nil _ _, hallC⟩
  obtain ⟨-, -, -, cause, -, -, -, hengine⟩ := hfirst "x" (by simp [listing]) _ hbad
  have hq := hp
  rw [hpolicy] at hq
  obtain ⟨hbeq, hverdicts⟩ := hequal p p hp hq
  exact ⟨k, _, _, _, p, p, rfl, rfl, rfl, hp, hq, hbeq, hverdicts, ⟨cause, hengine⟩, hnone rfl⟩

end PeerTrust
