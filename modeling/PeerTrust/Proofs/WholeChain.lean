import PeerTrust.Proofs.Consultation

/-!
# Chains are read whole or not at all

A chain is read certificate by certificate. If all its octet strings hold one, the chain has exactly
these, in order, each with the octets it came in, those behind it included, and an engine judges
that chain. Otherwise the first octet string that holds none tells the fault, whatever the
policy, and nothing else comes of it: no verdict, no call to path validation, no event, and no
difference to the steps that follow.

What a certificate is judged by is not considered here.
-/

namespace PeerTrust

section Certificates

/-! ### Certificates with octets behind them -/

/-- What stands behind a certificate does not matter to the decoder. -/
theorem X509.Certificate.ofDer?_append {der : Bytes} {x : X509.Certificate}
    (h : ofDer? der = some x) (behind : Bytes) : ofDer? (der ++ behind) = some x := by
  obtain ⟨⟨element, rest⟩, hread, hx⟩ := Option.bind_eq_some_iff.mp h
  obtain ⟨rfl, hframes⟩ := Asn1.Element.read_frames hread
  rw [List.append_assoc, X509.Certificate.ofDer?, hframes]
  exact hx

namespace PeerCertificate

variable {der : Bytes} {c : PeerCertificate}

/-- The octets of an encoding are kept as they are. -/
theorem der_of_ofDer (h : ofDer der = .ok c) : c.der = der := by
  obtain ⟨x, -, hc⟩ := ofDer_eq_ok_iff.mp h
  exact der_of_ofX509 hc

/-- Of the octets it keeps, the engine takes nothing else. -/
theorem ofX509_of_ofX509 {x : X509.Certificate} (h : ofX509 der x = .ok c) (other : Bytes) :
    ofX509 other x = .ok { c with der := other } := by
  unfold ofX509 at h ⊢
  split at h
  · cases h
    rfl
  · cases h

/-- Octets behind a certificate are kept with it and make no other difference. -/
theorem ofDer_append (h : ofDer der = .ok c) (behind : Bytes) :
    ofDer (der ++ behind) = .ok { c with der := der ++ behind } := by
  obtain ⟨x, hx, hc⟩ := ofDer_eq_ok_iff.mp h
  exact ofDer_eq_ok_iff.mpr ⟨x, X509.Certificate.ofDer?_append hx behind, ofX509_of_ofX509 hc _⟩

/-- An octet string that holds no certificate is none to the decoder, or its key is none. The fault
comes with these octets. -/
theorem fault_of_ofDer {fault : CertificateFault} (h : ofDer der = .error fault) :
    fault = .invalidDer der ∨ fault = .unreadableKey der := by
  unfold ofDer ofX509 at h
  split at h
  · split at h
    · cases h
    · cases h
      exact .inr rfl
  · cases h
    exact .inl rfl

end PeerCertificate

end Certificates

namespace PeerChain

/-! ### Chains -/

variable {ders : List Bytes} {chain : PeerChain} {fault : CertificateFault}

/-- The fault of the first octet string that holds no certificate: all before it hold one. -/
def FirstFault (ders : List Bytes) (fault : CertificateFault) : Prop :=
  ∃ before der after, ders = before ++ der :: after
    ∧ (∀ d ∈ before, ∃ c, PeerCertificate.ofDer d = .ok c)
    ∧ PeerCertificate.ofDer der = .error fault

theorem ofDers_eq_ok_iff :
    ofDers ders = .ok chain
      ↔ List.Forall₂ (fun der c => PeerCertificate.ofDer der = .ok c) ders chain.certificates := by
  rw [ofDers, map_eq_ok_iff, ← mapM_eq_ok_iff]
  constructor
  · rintro ⟨certificates, hread, rfl⟩
    exact hread
  · intro hread
    exact ⟨chain.certificates, hread, rfl⟩

theorem ofDers_eq_error_iff : ofDers ders = .error fault ↔ FirstFault ders fault := by
  rw [FirstFault, ← mapM_eq_error_iff, ofDers]
  cases ders.mapM PeerCertificate.ofDer <;> simp [Except.map]

/-- The certificates of a chain keep the octets that they came in. -/
theorem map_der_of_ofDers (h : ofDers ders = .ok chain) :
    chain.certificates.map (·.der) = ders := by
  have hread := (ofDers_eq_ok_iff.mp h).imp fun _ _ => PeerCertificate.der_of_ofDer
  rw [← List.forall₂_eq_eq_eq, List.forall₂_map_left_iff]
  exact List.Forall₂.flip hread

/-- A chain has a fault when some octet string holds no certificate, wherever it stands. -/
theorem exists_firstFault_iff :
    (∃ fault, FirstFault ders fault) ↔ ∃ der ∈ ders, ∀ c, PeerCertificate.ofDer der ≠ .ok c := by
  constructor
  · rintro ⟨fault, before, der, after, rfl, -, hfault⟩
    refine ⟨der, List.mem_append_right _ List.mem_cons_self, fun c hc => ?_⟩
    rw [hfault] at hc
    cases hc
  · rintro ⟨der, hder, hnone⟩
    cases hread : ofDers ders with
    | error fault => exact ⟨fault, ofDers_eq_error_iff.mp hread⟩
    | ok chain =>
      obtain ⟨c, -, hc⟩ := exists_image_of_forall₂ (ofDers_eq_ok_iff.mp hread) hder
      exact absurd hc (hnone c)

end PeerChain

namespace Engine

/-! ### Answers -/

variable {σ : Type} {ders : List Bytes} {now : X509.Moment} {host : String}

theorem verifyDers_eq_error_iff (e : Engine σ) {s : Session σ} {error : EngineError} :
    ((e.verifyDers now ders host).run s).1 = .error error
      ↔ ∃ fault, PeerChain.FirstFault ders fault ∧ error = .certificate fault := by
  simp only [← PeerChain.ofDers_eq_error_iff]
  cases hread : PeerChain.ofDers ders with
  | ok chain =>
    rw [e.run_verifyDers_of_ok hread]
    exact iff_of_false nofun (fun ⟨_, hfault, _⟩ => nomatch hfault)
  | error fault =>
    rw [e.verifyDers_of_error hread]
    change Except.error (EngineError.certificate fault) = .error error ↔ _
    simp only [Except.error.injEq, exists_eq_left']
    exact eq_comm

/-- A step whose chain has a fault is answered with it, and the steps behind it go as they would
without it. -/
theorem run_cons_of_firstFault (e : Engine σ) {fault : CertificateFault}
    (h : PeerChain.FirstFault ders fault) (rest : List Step) :
    e.run (⟨now, ders, host⟩ :: rest)
      = (fun answers => .error (.certificate fault) :: answers) <$> e.run rest := by
  have hstep : e.verifyDers now ders host = pure (.error (.certificate fault)) :=
    e.verifyDers_of_error (PeerChain.ofDers_eq_error_iff.mpr h)
  rw [run, hstep, pure_bind, map_eq_pure_bind]

/-- A chain is read, and judged, whole or not at all. It fails exactly if some octet string holds no
certificate, with the fault of the first that holds none, under every policy; the session stays as it
is, its log, its calls to path validation and the state of that included, and the steps behind go as
they would without this one. Otherwise the chain has one certificate for each octet string, in order
and with the very octets, what stands behind a certificate included, and it is this chain that is
judged. -/
theorem answers_whole_chain {σ : Type} (e : Engine σ) (ders : List Bytes) (host : String) :
    (∀ fault, PeerChain.ofDers ders = .error fault ↔ PeerChain.FirstFault ders fault)
    ∧ (∀ now s error, ((e.verifyDers now ders host).run s).1 = .error error
      ↔ ∃ fault, PeerChain.FirstFault ders fault ∧ error = .certificate fault)
    ∧ ((∃ fault, PeerChain.FirstFault ders fault)
      ↔ ∃ der ∈ ders, ∀ c, PeerCertificate.ofDer der ≠ .ok c)
    ∧ (∀ fault, PeerChain.FirstFault ders fault →
      (∃ der ∈ ders, PeerCertificate.ofDer der = .error fault
        ∧ (fault = .invalidDer der ∨ fault = .unreadableKey der))
      ∧ (∀ now s, (e.verifyDers now ders host).run s = (.error (.certificate fault), s))
      ∧ ∀ now rest s, (e.run (⟨now, ders, host⟩ :: rest)).run s
        = (.error (.certificate fault) :: ((e.run rest).run s).1, ((e.run rest).run s).2))
    ∧ (∀ chain, PeerChain.ofDers ders = .ok chain
      ↔ List.Forall₂ (fun der c => PeerCertificate.ofDer der = .ok c) ders chain.certificates)
    ∧ (∀ chain, PeerChain.ofDers ders = .ok chain →
      chain.certificates.map (·.der) = ders
      ∧ ∀ now s, (e.verifyDers now ders host).run s
        = (.ok ((e.verify now chain host).run s).1, ((e.verify now chain host).run s).2))
    ∧ ∀ der c behind, PeerCertificate.ofDer der = .ok c →
      PeerCertificate.ofDer (der ++ behind) = .ok { c with der := der ++ behind } := by
  refine ⟨fun fault => PeerChain.ofDers_eq_error_iff,
    fun now s error => e.verifyDers_eq_error_iff,
    PeerChain.exists_firstFault_iff, fun fault hfault => ?_,
    fun chain => PeerChain.ofDers_eq_ok_iff, fun chain hread => ?_,
    fun der c behind hread => PeerCertificate.ofDer_append hread behind⟩
  · obtain ⟨before, der, after, rfl, -, hder⟩ := id hfault
    refine ⟨⟨der, List.mem_append_right _ List.mem_cons_self, hder,
      PeerCertificate.fault_of_ofDer hder⟩, fun now s => ?_, fun now rest s => ?_⟩
    · rw [e.verifyDers_of_error (PeerChain.ofDers_eq_error_iff.mpr hfault)]
      rfl
    · rw [e.run_cons_of_firstFault hfault]
      rfl
  · exact ⟨PeerChain.map_der_of_ofDers hread, fun now s => e.run_verifyDers_of_ok hread s⟩

/-- A certificate with an octet behind it is read and keeps the octet. In front of an octet string
that holds none it does not save the chain, not even under trust in every chain, and path validation
is not called before the step that follows. -/
theorem answers_whole_chain_specimen :
    ∃ (der : Bytes) (c : PeerCertificate) (now : X509.Moment) (system : SystemVerifier Unit)
      (s : Session Unit),
      PeerCertificate.ofDer der = .ok c
      ∧ PeerChain.ofDers [der ++ [0], der] = .ok ⟨[{ c with der := der ++ [0] }, c]⟩
      ∧ ((Engine.verifyDers ⟨.trustAll, none⟩ now [der ++ [0], der] "a").run s).1 = .ok .accepted
      ∧ (Engine.verifyDers ⟨.trustAll, none⟩ now [der, Asn1.writePrimitive Asn1.tagNull [], der]
          "a").run s
        = (.error (.certificate (.invalidDer (Asn1.writePrimitive Asn1.tagNull []))), s)
      ∧ (((withSystem (.systemDefault none) system).run
          [⟨now, [der, Asn1.writePrimitive Asn1.tagNull [], der], "a"⟩, ⟨now, [der], "b"⟩]).run
          s).2.calls
        = [⟨now, ⟨[c]⟩, "b"⟩] := by
  obtain ⟨c, _, hread, -, -⟩ := PeerCertificate.bundle_specimen
  let der := Specimen.certificate [Utf8.encodeString "a"]
  let broken := Asn1.writePrimitive Asn1.tagNull []
  let now := X509.Moment.of 2026 1 1 0 0 0
  let trusting : Engine Unit := ⟨.trustAll, none⟩
  let system : SystemVerifier Unit := fun _ => return .ok ()
  obtain ⟨-, -, -, -, hchain, hjudged, hbehind⟩ :=
    answers_whole_chain trusting [der ++ [0], der] "a"
  obtain ⟨-, -, -, htrusting, -, -, -⟩ := answers_whole_chain trusting [der, broken, der] "a"
  obtain ⟨-, -, -, hvalidating, -, -, -⟩ :=
    answers_whole_chain (withSystem (.systemDefault none) system) [der, broken, der] "a"
  have hpair := (hchain ⟨[{ c with der := der ++ [0] }, c]⟩).mpr
    (.cons (hbehind der c [0] hread) (.cons hread .nil))
  have hfault : PeerChain.FirstFault [der, broken, der] (.invalidDer broken) :=
    ⟨[der], broken, [der], rfl, by simpa using ⟨c, hread⟩, PeerCertificate.ofDer_null⟩
  refine ⟨der, c, now, system, .start (), hread, hpair, ?_, (htrusting _ hfault).2.1 now _, ?_⟩
  · rw [(hjudged _ hpair).2]
    rfl
  · have hdue : due? (.systemDefault none) ⟨now, [der], "b"⟩ = some ⟨now, ⟨[c]⟩, "b"⟩ :=
      due?_eq_some_iff.mpr
        ⟨PeerChain.ofDers_eq_ok_iff.mpr (.cons hread .nil), ⟨⟨none, rfl⟩, rfl⟩, rfl, rfl⟩
    rw [(hvalidating _ hfault).2.2, (trace_run _ _ _ _).1, dues_cons, hdue]
    rfl

end Engine

end PeerTrust
