import PeerTrust.Binding
import PeerTrust.Proofs.PinLanguage
import PeerTrust.Proofs.Pinning
import PeerTrust.Proofs.Rereading

/-!
# Pins that are told and taken up again

The engine tells the pins of a chain as texts, in its log and in summaries, so that one of them can
be put into a policy. Such a text is read as the very pin it was told for, and a policy with it
accepts whatever carries the key.

Digests are the octets that `DigestAlgorithm.digest` makes; nothing is assumed about collisions.
-/

namespace PeerTrust

namespace Pin

/-- What is told in place of a pin that is missing is the text of no pin. -/
theorem text_ne_unavailable (p : Pin) (algorithm : DigestAlgorithm) :
    p.text ≠ algorithm.word ++ "/<unavailable>" := by
  intro h
  have hread : ofString (algorithm.word ++ "/<unavailable>") = .ok p := h ▸ p.ofString_text
  have hnone : ∀ p : Pin, ofString (algorithm.word ++ "/<unavailable>") ≠ .ok p := by
    cases algorithm <;> nofun
  exact hnone p hread

end Pin

/-- The digest of a key always has the length of a pin. -/
theorem PeerCertificate.makePin_eq (c : PeerCertificate) (algorithm : DigestAlgorithm) :
    c.makePin algorithm = .ok (c.pin algorithm) :=
  (c.pin algorithm).ofHash_hash

/-- A summary has the text of the pin. -/
theorem PeerCertificate.pin?_summary (c : PeerCertificate) :
    c.summary.pin? = some (c.pin .sha256).text := by
  rw [summary, makePin_eq]
  rfl

namespace PeerChain

/-- The pins of a chain are the texts of its certificates' pins. -/
theorem pins_eq (chain : PeerChain) (algorithm : DigestAlgorithm) :
    chain.pins algorithm = chain.certificates.map fun c => (c.pin algorithm).text := by
  unfold pins
  simp only [PeerCertificate.makePin_eq]

end PeerChain

namespace Engine

variable {σ : Type} {pattern : String} {p : HostPattern} {host : String}

/-- A policy with the text of a certificate's pin can be bound, and accepts for the hosts of its
pattern every chain in which some certificate has the key. -/
theorem accepts_pinned (hpattern : HostPattern.ofString pattern = .ok p)
    (hcovers : p.covers host = true) (c : PeerCertificate) (algorithm : DigestAlgorithm) :
    ∃ policy, TrustPolicy.ofDigestText pattern (c.pin algorithm).text = .ok policy
      ∧ ∀ around, ∃ e : Engine σ, ofPolicy around policy = .ok e
        ∧ ∀ chain : PeerChain, (∃ c' ∈ chain.certificates, c'.publicKey = c.publicKey) →
          ∀ now s, ((e.verify now chain host).run s).1 = .accepted := by
  refine ⟨.pinnedDigest p (c.pin algorithm), ?_, fun around => ⟨_, rfl, ?_⟩⟩
  · rw [TrustPolicy.ofDigestText, hpattern, Pin.ofString_text]
    rfl
  · rintro chain ⟨c', hc', hkey⟩
    have hsatisfied : TrustPolicy.Satisfied host c' (.pinnedDigest p (c.pin algorithm)) :=
      ⟨hcovers, congrArg (fun key : PublicKey => algorithm.digest key.der) hkey⟩
    exact fun now s => verify_of_satisfied trivial hc' hsatisfied

end Engine

/-- The pins of a chain are told one by one, each as a text that is read as the pin of the
certificate's key: it names the algorithm and holds the digest of the key, so none is missing. The
summary of a certificate always has the text for one of the algorithms, and the binding gives it for
the first certificate of an armoured text, or else the fault of reading that. A policy with such a
text accepts for the hosts of its pattern every chain in which some certificate has the key. -/
theorem exported_pins {σ : Type} (chain : PeerChain) (algorithm : DigestAlgorithm) :
    (chain.pins algorithm).length = chain.length
    ∧ (∀ (i : Nat) (c : PeerCertificate), chain.certificates[i]? = some c →
      ∃ pin : Pin, (chain.pins algorithm)[i]? = some pin.text
        ∧ pin.text ≠ algorithm.word ++ "/<unavailable>"
        ∧ Pin.ofString pin.text = .ok pin
        ∧ pin.algorithm = algorithm ∧ pin.hash = algorithm.digest c.publicKey.der
        ∧ chain.summaries[i]? = some c.summary
        ∧ (∃ text, c.summary.pin? = some text ∧ (chain.pins .sha256)[i]? = some text)
        ∧ ∀ pattern p host, HostPattern.ofString pattern = .ok p → p.covers host = true →
          ∃ policy, TrustPolicy.ofDigestText pattern pin.text = .ok policy
            ∧ ∀ around, ∃ e : Engine σ, Engine.ofPolicy around policy = .ok e
              ∧ ∀ other : PeerChain, (∃ c' ∈ other.certificates, c'.publicKey = c.publicKey) →
                ∀ now s, ((e.verify now other host).run s).1 = .accepted)
    ∧ ∀ around armour,
      (∀ c, PeerCertificate.ofArmour (Utf8.encodeString armour) = .ok c →
        ∃ text, (PeerChain.mk [c]).pins .sha256 = [text] ∧ c.summary.pin? = some text
          ∧ Binding.pinOf around armour = .ok text)
      ∧ ∀ fault, PeerCertificate.ofArmour (Utf8.encodeString armour) = .error fault →
        Binding.pinOf around armour
          = .error (.ofEngine around.diagnose (.certificate fault)) := by
  refine ⟨?_, fun i c hc => ?_, fun around armour => ⟨fun c hc => ?_, fun fault hfault => ?_⟩⟩
  · rw [PeerChain.pins_eq, List.length_map, PeerChain.length]
  · have hpin (algorithm : DigestAlgorithm) :
        (chain.pins algorithm)[i]? = some (c.pin algorithm).text := by
      rw [PeerChain.pins_eq, List.getElem?_map, hc]
      rfl
    refine ⟨c.pin algorithm, hpin algorithm, Pin.text_ne_unavailable _ _, Pin.ofString_text _,
      rfl, rfl, ?_, ⟨_, c.pin?_summary, hpin .sha256⟩, fun pattern p host hpattern hcovers => ?_⟩
    · rw [PeerChain.summaries, List.getElem?_map, hc]
      rfl
    · exact Engine.accepts_pinned hpattern hcovers c algorithm
  · refine ⟨_, PeerChain.pins_eq ⟨[c]⟩ .sha256, c.pin?_summary, ?_⟩
    rw [Binding.pinOf, hc]
    dsimp only
    rw [c.makePin_eq]
  · rw [Binding.pinOf, hfault]

/-- The pin that is told for a leaf makes a policy that accepts its chain. -/
theorem exported_pins_specimen :
    ∃ (around : Surroundings) (chain : PeerChain) (pin : Pin) (policy : TrustPolicy)
      (e : Engine Unit) (now : X509.Moment) (s : Session Unit) (armour text : String)
      (c : PeerCertificate),
      (chain.pins .sha384)[0]? = some pin.text
      ∧ Pin.ofString pin.text = .ok pin
      ∧ TrustPolicy.ofDigestText "*.example.com" pin.text = .ok policy
      ∧ Engine.ofPolicy around policy = .ok e
      ∧ ((e.verify now chain "api.example.com").run s).1 = .accepted
      ∧ PeerCertificate.ofArmour (Utf8.encodeString armour) = .ok c
      ∧ c.summary.pin? = some text
      ∧ Binding.pinOf around armour = .ok text
      ∧ Binding.pinOf around ""
        = .error (.ofEngine around.diagnose (.certificate .noCertificate)) := by
  let around : Surroundings := ⟨.error "no store", fun _ _ => "no structure"⟩
  let leaf : PeerCertificate := ⟨[0], ⟨[1]⟩, "", "", ""⟩
  let pattern : HostPattern := ⟨"*.example.com", .oneLabel "example.com".toList⟩
  have hcovers : pattern.covers "api.example.com" = true := rfl
  have hnone : PeerCertificate.ofArmour (Utf8.encodeString "") = .error .noCertificate := by
    change (PeerCertificate.bundle []).bind _ = _
    rw [PeerCertificate.bundle, Armour.blocks_nil]
    rfl
  obtain ⟨_, c, -, hbundle, -⟩ := PeerCertificate.bundle_specimen
  have harmour := PeerCertificate.ofArmour_of_bundle hbundle
  obtain ⟨-, hpins, hbinding⟩ := exported_pins (σ := Unit) ⟨[leaf]⟩ .sha384
  obtain ⟨pin, htold, -, hread, -, -, -, -, hpolicies⟩ := hpins 0 leaf rfl
  obtain ⟨policy, hpolicy, hengines⟩ :=
    hpolicies _ pattern "api.example.com" HostPattern.ofString_subdomains hcovers
  obtain ⟨e, he, haccepts⟩ := hengines around
  obtain ⟨text, -, hsummary, htext⟩ := (hbinding around _).1 c harmour
  exact ⟨around, ⟨[leaf]⟩, pin, policy, e, .of 2026 1 1 0 0 0, .start (), _, text, c, htold, hread,
    hpolicy, he, haccepts _ ⟨leaf, List.mem_cons_self, rfl⟩ _ _, harmour, hsummary, htext,
    (hbinding around "").2 _ hnone⟩

end PeerTrust
