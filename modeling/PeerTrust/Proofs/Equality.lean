import Mathlib.Data.List.Basic
import PeerTrust.Proofs.EntryPoints
import PeerTrust.Proofs.KeySet
import PeerTrust.Proofs.Rereading

/-!
# Policies and chains that compare equal

Certificates are compared by their octets, whether they stand in a chain or in a policy, and keys of
a policy as a set. What else is kept of the certificates of a chain is read from their octets, and
of those of a policy nothing else is looked at. So what compares equal is judged alike.
-/

namespace PeerTrust

namespace PeerCertificate

/-- Certificates in a list are compared one by one, each by its octets. -/
theorem list_beq_eq_true_iff {cs ds : List PeerCertificate} :
    (cs == ds) = true ↔ cs.map der = ds.map der := by
  induction cs generalizing ds with
  | nil => cases ds <;> simp
  | cons c cs ih =>
    cases ds with
    | nil => simp
    | cons d ds =>
      rw [List.cons_beq_cons, Bool.and_eq_true, ih, beq_eq_true_iff, List.map_cons, List.map_cons,
        List.cons.injEq]

/-- Certificates that were read are given by their octets. -/
theorem eq_of_map_der {cs ds : List PeerCertificate} (hc : ∀ c ∈ cs, c.IsRead)
    (hd : ∀ d ∈ ds, d.IsRead) (h : cs.map der = ds.map der) : cs = ds := by
  induction cs generalizing ds with
  | nil => exact (List.map_eq_nil_iff.mp h.symm).symm
  | cons c cs ih =>
    obtain ⟨d, ds, rfl, hder, hrest⟩ := List.map_eq_cons_iff.mp h.symm
    obtain ⟨hfirst, hcs⟩ := List.forall_mem_cons.mp hc
    obtain ⟨hfirst', hds⟩ := List.forall_mem_cons.mp hd
    rw [hfirst.eq_of_beq hfirst' (beq_eq_true_iff.mpr hder.symm), ih hcs hds hrest.symm]

end PeerCertificate

/-- Chains of certificates that were read are equal when they compare equal. -/
theorem PeerChain.eq_of_beq {c d : PeerChain} (hc : ∀ x ∈ c.certificates, x.IsRead)
    (hd : ∀ x ∈ d.certificates, x.IsRead) (h : (c == d) = true) : c = d := by
  obtain ⟨cs⟩ := c
  obtain ⟨ds⟩ := d
  exact congrArg mk (PeerCertificate.eq_of_map_der hc hd (PeerCertificate.list_beq_eq_true_iff.mp h))

namespace TrustPolicy

/-- What it means for policies to be equal: certificates have the same octets, in anchors one by
one, a pattern has the same text and rule, and sets have the same keys. -/
inductive Same : TrustPolicy → TrustPolicy → Prop
  | platform : Same (systemDefault none) (systemDefault none)
  | anchors {a b : List PeerCertificate}
      (h : a.map PeerCertificate.der = b.map PeerCertificate.der) :
      Same (systemDefault (some a)) (systemDefault (some b))
  | trustAll : Same trustAll trustAll
  | certificate {a b : PeerCertificate} (h : a.der = b.der) :
      Same (pinnedCertificate a) (pinnedCertificate b)
  | digest {p q : HostPattern} (pin : Pin) (htext : p.text = q.text) (hrule : p.rule = q.rule) :
      Same (pinnedDigest p pin) (pinnedDigest q pin)
  | keys {a b : KeySet} (h : ∀ k, a.contains k = b.contains k) :
      Same (pinnedPublicKey a) (pinnedPublicKey b)

variable {p q : TrustPolicy}

theorem beq_eq_true_iff : (p == q) = true ↔ p.Same q := by
  change same p q = true ↔ _
  constructor
  · intro h
    unfold same at h
    split at h
    · exact .platform
    · exact .anchors (PeerCertificate.list_beq_eq_true_iff.mp h)
    · exact .trustAll
    · exact .certificate (PeerCertificate.beq_eq_true_iff.mp h)
    · rw [Bool.and_eq_true, decide_eq_true_eq, decide_eq_true_eq] at h
      obtain ⟨rfl, rfl⟩ := h
      exact .digest _ rfl rfl
    · exact .keys (KeySet.eq_iff_contains.mp (of_decide_eq_true h))
    · cases h
  · intro h
    cases h with
    | platform => rfl
    | anchors h => exact PeerCertificate.list_beq_eq_true_iff.mpr h
    | trustAll => rfl
    | certificate h => exact PeerCertificate.beq_eq_true_iff.mpr h
    | digest pin htext hrule =>
      rename_i a b
      obtain ⟨text, rule⟩ := a
      cases htext
      cases hrule
      simp [same]
    | keys h => exact decide_eq_true (KeySet.eq_iff_contains.mpr h)

theorem Same.isTrustAll_eq (h : p.Same q) : p.isTrustAll = q.isTrustAll := by
  cases h <;> rfl

end TrustPolicy

/-- Anchors with the same octets are read alike. -/
theorem TrustStore.readAll_congr {a b : List PeerCertificate}
    (h : a.map PeerCertificate.der = b.map PeerCertificate.der) : readAll a = readAll b := by
  have hread (cs : List PeerCertificate) :
      readAll cs = (cs.map PeerCertificate.der).mapM reread := by
    rw [List.mapM_map]
    rfl
  rw [hread, hread, h]

namespace Engine

variable {σ : Type} {around : Surroundings} {p q : TrustPolicy}

/-- Equal policies need the same store. -/
theorem storeFor_congr (h : p.Same q) : storeFor around p = storeFor around q := by
  cases h with
  | anchors h =>
    -- The anchors are read anew from their octets; whether there are any is told by these, too.
    have hempty := congrArg List.isEmpty h
    rw [List.isEmpty_map, List.isEmpty_map] at hempty
    rw [storeFor, storeFor, TrustStore.ofAnchors, TrustStore.ofAnchors, hempty,
      TrustStore.readAll_congr h]
  | _ => rfl

/-- Equal policies judge alike when they are bound to the same path validation. -/
theorem verify_congr (h : p.Same q) (system : Option (SystemVerifier σ)) (now : X509.Moment)
    (chain : PeerChain) (host : String) :
    verify ⟨p, system⟩ now chain host = verify ⟨q, system⟩ now chain host := by
  cases h with
  | certificate h =>
    unfold verify judge judgeChain
    dsimp only
    rw [h]
    rfl
  | digest pin htext hrule =>
    rename_i a b
    obtain ⟨text, rule⟩ := a
    cases htext
    cases hrule
    rfl
  | keys h =>
    rw [KeySet.eq_iff_contains.mpr h]
  | _ => rfl

end Engine

/-- Equal policies judge a chain alike. -/
theorem verifyChain_of_same {σ : Type} {p q : TrustPolicy} (h : p.Same q)
    (around : Surroundings) (now : X509.Moment) (chain : PeerChain) (host : String) :
    verifyChain (σ := σ) around p now chain host = verifyChain around q now chain host := by
  unfold verifyChain Engine.ofPolicy
  rw [h.isTrustAll_eq, Engine.storeFor_congr h]
  split
  · rfl
  · cases Engine.storeFor around q with
    | error fault => rfl
    | ok found => exact Engine.verify_congr h _ now chain host

/-- Policies compare equal exactly if they say the same: certificates by their octets, a pattern by
text and rule, keys as a set. Chains do exactly if they hold the same octets. With policies that
compare equal, and chains of certificates that compare equal, be they from encodings or from texts,
every host has one verdict at a moment, down to the reason and its texts, and the session is left
alike. -/
theorem verifyChain_congr {σ : Type} (p q : TrustPolicy) (c d : PeerChain) :
    ((p == q) = true ↔ p.Same q)
    ∧ ((c == d) = true
      ↔ c.certificates.map PeerCertificate.der = d.certificates.map PeerCertificate.der)
    ∧ ((p == q) = true → (c == d) = true → (∀ x ∈ c.certificates, x.IsRead) →
      (∀ x ∈ d.certificates, x.IsRead) →
      ∀ (around : Surroundings) now host,
        verifyChain (σ := σ) around p now c host = verifyChain around q now d host) := by
  refine ⟨TrustPolicy.beq_eq_true_iff, PeerCertificate.list_beq_eq_true_iff,
    fun hp h hc hd around now host => ?_⟩
  obtain rfl := PeerChain.eq_of_beq hc hd h
  exact verifyChain_of_same (TrustPolicy.beq_eq_true_iff.mp hp) around now c host

/-- A certificate from its encoding and the one from armour make equal chains and equal anchors, and
keys make equal sets in whatever order they are listed. -/
theorem verifyChain_congr_specimen :
    ∃ c d : PeerCertificate,
      PeerCertificate.ofDer (Specimen.certificate [Utf8.encodeString "a"]) = .ok c
      ∧ PeerCertificate.ofArmour (Utf8.encodeString
        (Specimen.armour (Specimen.certificate [Utf8.encodeString "a"]))) = .ok d
      ∧ (∀ around now host,
        verifyChain (σ := Unit) around (.systemDefault (some [c])) now ⟨[c]⟩ host
          = verifyChain around (.systemDefault (some [d])) now ⟨[d]⟩ host)
      ∧ ∀ around now host,
        verifyChain (σ := Unit) around (.pinnedPublicKey (.ofList [⟨[1]⟩, ⟨[2]⟩])) now ⟨[c]⟩ host
          = verifyChain around (.pinnedPublicKey (.ofList [⟨[2]⟩, ⟨[1]⟩, ⟨[2]⟩])) now ⟨[d]⟩
            host := by
  obtain ⟨c, d, hc, hbundle, hder⟩ := PeerCertificate.bundle_specimen
  have hd := PeerCertificate.ofArmour_of_bundle hbundle
  have hreadC : ∀ x ∈ (PeerChain.mk [c]).certificates, x.IsRead := by
    simpa using PeerCertificate.IsRead.ofDer hc
  have hreadD : ∀ x ∈ (PeerChain.mk [d]).certificates, x.IsRead := by
    simpa using PeerCertificate.IsRead.ofArmour hd
  obtain ⟨hanchors, hchains, hsame⟩ := verifyChain_congr (σ := Unit) (.systemDefault (some [c]))
    (.systemDefault (some [d])) ⟨[c]⟩ ⟨[d]⟩
  obtain ⟨-, -, hkeys⟩ := verifyChain_congr (σ := Unit) (.pinnedPublicKey (.ofList [⟨[1]⟩, ⟨[2]⟩]))
    (.pinnedPublicKey (.ofList [⟨[2]⟩, ⟨[1]⟩, ⟨[2]⟩])) ⟨[c]⟩ ⟨[d]⟩
  have hequal := hchains.mpr (congrArg (fun der => [der]) hder)
  have hpolicies := hanchors.mpr (.anchors (congrArg (fun der => [der]) hder))
  exact ⟨c, d, hc, hd, hsame hpolicies hequal hreadC hreadD,
    hkeys (by decide) hequal hreadC hreadD⟩

end PeerTrust
