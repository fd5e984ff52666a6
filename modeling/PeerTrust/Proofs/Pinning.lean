import PeerTrust.Proofs.Session

/-!
# What pins accept

A pin judges a chain by its certificates one at a time: it accepts when one of them, wherever it
stands, satisfies the pin, and refuses with a reason of its own otherwise. So neither the order of
a chain nor the certificates around the pinned one have any say in the verdict.

Digests are the octets that `DigestAlgorithm.digest` makes; nothing is assumed about collisions.
-/

namespace PeerTrust

namespace TrustPolicy

/-- Whether a certificate that is presented for a host satisfies the pin of a policy. A digest
binds the hosts of its pattern only. -/
def Satisfied (host : String) (c : PeerCertificate) : TrustPolicy → Prop
  | pinnedCertificate authority => c.der = authority.der
  | pinnedDigest pattern pin =>
    pattern.covers host = true ∧ pin.algorithm.digest c.publicKey.der = pin.hash
  | pinnedPublicKey keys => c.publicKey ∈ keys.keys
  | systemDefault _ | trustAll => False

/-- The reason that a pin gives when no certificate satisfies it. A host outside the pattern of a
digest is told before the digests are looked at. -/
def refusal? (host : String) : TrustPolicy → Option RejectReason
  | pinnedCertificate _ => some .certificateMismatch
  | pinnedDigest pattern _ =>
    some (if pattern.covers host then .digestMismatch else .hostnameMismatch pattern.text host)
  | pinnedPublicKey _ => some .publicKeyMismatch
  | systemDefault _ | trustAll => none

/-- Whether a policy judges chains by a pin. -/
def IsPin : TrustPolicy → Prop
  | pinnedCertificate _ | pinnedDigest .. | pinnedPublicKey _ => True
  | systemDefault _ | trustAll => False

end TrustPolicy

namespace Engine

variable {σ : Type}

/-- A judgement by a test on certificates accepts when some certificate passes. -/
theorem judgePin_verdict (chain : PeerChain) (pinned : PeerCertificate → Bool)
    (reason : RejectReason) :
    (judgePin chain pinned reason).verdict =
      if chain.certificates.any pinned then .accepted else .rejected reason := by
  unfold judgePin
  split
  · rename_i depth hfound
    have hany : chain.certificates.any pinned = true := by
      rw [← List.findIdx?_isSome, hfound, Option.isSome_some]
    rw [if_pos hany]
  · rename_i hmissing
    have hany : ¬chain.certificates.any pinned = true := by
      rw [← List.findIdx?_isSome, hmissing]
      simp
    rw [if_neg hany]

/-- Where a chain is not empty, a pin judges it in its own way. -/
theorem judge_eq_judgeChain (e : Engine σ) (now : X509.Moment) (chain : PeerChain) (host : String)
    (hpin : e.policy.IsPin) (hne : chain.certificates ≠ []) :
    e.judge now chain host = e.judgeChain now chain host := by
  have htrust : e.policy.isTrustAll = false := by
    revert hpin
    cases e.policy <;> simp [TrustPolicy.IsPin, TrustPolicy.isTrustAll]
  have hempty : chain.isEmpty = false := by
    simpa [PeerChain.isEmpty] using hne
  simp only [judge, htrust, hempty, Bool.false_eq_true, if_false]

/-- Every pin is judged by a test on certificates that fails with one reason. -/
theorem exists_judgePin (e : Engine σ) (host : String) (hpin : e.policy.IsPin) :
    ∃ (pinned : PeerCertificate → Bool) (reason : RejectReason),
      (∀ c, pinned c = true ↔ e.policy.Satisfied host c) ∧
        e.policy.refusal? host = some reason ∧
          ∀ now (chain : PeerChain),
            e.judgeChain now chain host = pure (judgePin chain pinned reason) := by
  obtain ⟨policy, system⟩ := e
  cases policy with
  | systemDefault anchors => exact hpin.elim
  | trustAll => exact hpin.elim
  | pinnedCertificate authority =>
    exact ⟨fun c => c.der == authority.der, .certificateMismatch, fun _ => beq_iff_eq, rfl,
      fun _ _ => rfl⟩
  | pinnedDigest pattern pin =>
    by_cases hcovers : pattern.covers host = true
    · refine ⟨carriesDigest pin, .digestMismatch, ?_, ?_, ?_⟩
      · intro c
        simp only [carriesDigest, sameOctets_iff, TrustPolicy.Satisfied, hcovers, true_and]
      · simp only [TrustPolicy.refusal?, hcovers, if_true]
      · intro now chain
        simp only [judgeChain, hcovers, if_true]
    -- No certificate can satisfy the pin, so the test is the one that always fails.
    · refine ⟨fun _ => false, .hostnameMismatch pattern.text host, ?_, ?_, ?_⟩
      · intro c
        simp only [TrustPolicy.Satisfied, hcovers, false_and, Bool.false_eq_true]
      · simp only [TrustPolicy.refusal?, hcovers, Bool.false_eq_true, if_false]
      · intro now chain
        have hnone : chain.certificates.findIdx? (fun _ => false) = none := by simp
        simp only [judgeChain, hcovers, judgePin, hnone, Bool.false_eq_true, if_false]
  | pinnedPublicKey keys =>
    refine ⟨fun c => keys.contains c.publicKey, .publicKeyMismatch, ?_, rfl, fun _ _ => rfl⟩
    intro c
    simp only [KeySet.contains, List.contains_iff_mem, TrustPolicy.Satisfied]

/-- So the verdict of a pin is whether some certificate passes, at any moment and in any session. -/
theorem exists_test (e : Engine σ) (host : String) (hpin : e.policy.IsPin) :
    ∃ (pinned : PeerCertificate → Bool) (reason : RejectReason),
      (∀ c, pinned c = true ↔ e.policy.Satisfied host c) ∧
        e.policy.refusal? host = some reason ∧
          ∀ now (chain : PeerChain) (s : Session σ), chain.certificates ≠ [] →
            ((e.verify now chain host).run s).1 =
              if chain.certificates.any pinned then .accepted else .rejected reason := by
  obtain ⟨pinned, reason, htest, hreason, hjudge⟩ := e.exists_judgePin host hpin
  refine ⟨pinned, reason, htest, hreason, fun now chain s hne => ?_⟩
  have hpure := (e.judge_eq_judgeChain now chain host hpin hne).trans (hjudge now chain)
  rw [run_verify_of_judgement hpure]
  exact judgePin_verdict chain pinned reason

/-- A certificate that satisfies the pin is enough, wherever in the chain it stands. -/
theorem verify_of_satisfied {e : Engine σ} {chain : PeerChain} {host : String}
    {now : X509.Moment} {s : Session σ} (hpin : e.policy.IsPin) {c : PeerCertificate}
    (hc : c ∈ chain.certificates) (hsatisfied : e.policy.Satisfied host c) :
    ((e.verify now chain host).run s).1 = .accepted := by
  obtain ⟨pinned, reason, htest, -, hverify⟩ := e.exists_test host hpin
  have hany : chain.certificates.any pinned = true :=
    List.any_eq_true.mpr ⟨c, hc, (htest c).mpr hsatisfied⟩
  exact (hverify now chain s (List.ne_nil_of_mem hc)).trans (if_pos hany)

/-- A pin accepts exactly the chains in which some certificate satisfies it, and refuses all others
with its own reason. Joined chains are accepted when one of the parts is, and the order of a chain
does not matter. All this holds at every moment and in every session. -/
theorem verify_pinned (e : Engine σ) (host : String) (hpin : e.policy.IsPin) (now : X509.Moment)
    (s : Session σ) :
    (∀ chain : PeerChain, chain.certificates ≠ [] →
      (((e.verify now chain host).run s).1 = .accepted ↔
        ∃ c ∈ chain.certificates, e.policy.Satisfied host c) ∧
      (((e.verify now chain host).run s).1 ≠ .accepted →
        ∃ reason, e.policy.refusal? host = some reason ∧
          ((e.verify now chain host).run s).1 = .rejected reason)) ∧
    (∀ a b : List PeerCertificate, a ≠ [] → b ≠ [] →
      (((e.verify now ⟨a ++ b⟩ host).run s).1 = .accepted ↔
        ((e.verify now ⟨a⟩ host).run s).1 = .accepted
          ∨ ((e.verify now ⟨b⟩ host).run s).1 = .accepted)) ∧
    (∀ a b : List PeerCertificate, a.Perm b →
      ((e.verify now ⟨a⟩ host).run s).1 = ((e.verify now ⟨b⟩ host).run s).1) := by
  obtain ⟨pinned, reason, htest, hreason, hverify⟩ := e.exists_test host hpin
  have haccepts (chain : PeerChain) (hne : chain.certificates ≠ []) :
      ((e.verify now chain host).run s).1 = .accepted
        ↔ ∃ c ∈ chain.certificates, e.policy.Satisfied host c := by
    rw [hverify now chain s hne]
    simp [← htest]
  refine ⟨?_, ?_, ?_⟩
  · intro chain hne
    refine ⟨haccepts chain hne, ?_⟩
    intro hrefused
    rw [hverify now chain s hne] at hrefused ⊢
    split at hrefused
    · exact absurd rfl hrefused
    · rename_i hnone
      exact ⟨reason, hreason, if_neg hnone⟩
  · intro a b ha hb
    have hab : a ++ b ≠ [] := fun h => ha (List.append_eq_nil_iff.mp h).1
    rw [haccepts ⟨a ++ b⟩ hab, haccepts ⟨a⟩ ha, haccepts ⟨b⟩ hb]
    simp only [List.mem_append, or_and_right, exists_or]
  · intro a b hperm
    by_cases ha : a = []
    · subst ha
      rw [hperm.nil_eq]
    · have hb : b ≠ [] := fun h => ha (h ▸ hperm).eq_nil
      have hany : a.any pinned = b.any pinned := by
        rw [Bool.eq_iff_iff, List.any_eq_true, List.any_eq_true]
        simp only [hperm.mem_iff]
      rw [hverify now ⟨a⟩ s ha, hverify now ⟨b⟩ s hb, hany]

/-- A digest that is pinned for the hosts one label below a suffix. -/
def suffixPin : TrustPolicy :=
  .pinnedDigest ⟨"*.example.com", .oneLabel "example.com".toList⟩ (Pin.ofMessage .sha256 [2])

/-- The pin is satisfied by a certificate behind the leaf. -/
theorem verify_pinned_behind_leaf :
    suffixPin.IsPin ∧
      (((Engine.mk suffixPin none).verify (.of 2026 1 1 0 0 0)
        ⟨[⟨[0], ⟨[1]⟩, "", "", ""⟩, ⟨[0], ⟨[2]⟩, "", "", ""⟩]⟩ "api.example.com").run
          (.start ())).1 = .accepted := by
  refine ⟨trivial, ?_⟩
  refine ((verify_pinned ⟨suffixPin, none⟩ "api.example.com" trivial (.of 2026 1 1 0 0 0)
    (.start ())).1 _ (List.cons_ne_nil _ _)).1.mpr ?_
  refine ⟨⟨[0], ⟨[2]⟩, "", "", ""⟩, by simp, ?_⟩
  simp only [suffixPin, TrustPolicy.Satisfied, Pin.ofMessage, and_true]
  decide

end Engine

end PeerTrust
