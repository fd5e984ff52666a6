import PeerTrust.Proofs.Host.CleanName
import PeerTrust.Proofs.Outcome
import PeerTrust.Proofs.Path.Soundness

/-!
# The names of a leaf that is valid for a host

Common names are for leaves without alternative names. A leaf whose alternative names are repeated
or unreadable looks like one without when it is matched with a host; what keeps it out is that its
extensions are not sound, so that nothing can be its issuer. One way past this is left: where
partial paths are enough, a leaf that is trusted itself needs no issuer. Such a leaf, and no other,
is valid by a common name although it has alternative names.
-/

namespace PeerTrust

namespace X509

/-- What a certificate states by extensions that it has is not absent. -/
theorem Certificate.states_ne_absent {α : Type} {c : Certificate} {oid : Asn1.ObjectId}
    (h : c.hasExtension oid = true) (read : Asn1.Element → Option α) :
    c.states oid read ≠ .absent := by
  obtain ⟨x, hx, hoid⟩ := List.any_eq_true.mp h
  unfold states statementOf
  split
  · rename_i hnone
    exact absurd hoid (List.filter_eq_nil_iff.mp hnone x hx)
  · split
    · simp
    · simp
  · simp

/-- A certificate with unusable alternative names is not sound. -/
theorem Certificate.isSound_of_altNames {c : Certificate} (h : c.altNames = .unusable) :
    c.isSound = false := by
  simp [isSound, h, Statement.isUnusable]

end X509

namespace Path

open PeerTrust.X509

/-- An alternative host name covers a host. -/
def NamedByAltName (c : Certificate) (host : String) : Prop :=
  ∃ names text name, c.altNames = .stated names ∧ GeneralName.dns text ∈ names ∧
    Utf8.decode? text = some name ∧ nameCovers name host = true

/-- Where alternative names are stated, a certificate is one for a host that is no address when one
of these covers it. -/
theorem matchesHost_iff_namedByAltName {c : Certificate} {host : String} {names : List GeneralName}
    (halt : c.altNames = .stated names) (hhost : Address.ofText? host.toList = none) :
    matchesHost c host = true ↔ NamedByAltName c host := by
  simp only [matchesHost, halt, Statement.value?, hhost, List.any_eq_true, altNameCovers_iff,
    NamedByAltName]
  constructor
  · rintro ⟨n, hn, text, name, rfl, hread, hcovers⟩
    exact ⟨names, text, name, rfl, hn, hread, hcovers⟩
  · rintro ⟨_, text, name, ⟨⟩, hn, hread, hcovers⟩
    exact ⟨_, hn, text, name, rfl, hread, hcovers⟩

/-- Where alternative names are unusable, a certificate is one for a host that is no address when a
common name covers it. -/
theorem matchesHost_iff_namesDespite {c : Certificate} {host : String}
    (halt : c.altNames = .unusable) (hhost : Address.ofText? host.toList = none) :
    matchesHost c host = true ↔ NamesDespiteAltNames c host := by
  rw [matchesHost_iff_names hhost]
  constructor
  · rintro ((⟨names, -, -, hstated, -⟩ | ⟨habsent, -⟩) | ⟨names, -, -, hstated, -⟩ | hdespite)
    · rw [halt] at hstated
      cases hstated
    · rw [halt] at habsent
      cases habsent
    · rw [halt] at hstated
      cases hstated
    · exact hdespite
  · exact fun hdespite => .inr (.inr hdespite)

/-- A leaf passes alone: it is the same as a trusted certificate, this is enough, and the path of
itself passes the checks. -/
def PassesAlone (src : Sources) (leaf : Certificate) : Prop :=
  src.partialEnough = true ∧ (∃ a ∈ src.trusted, same leaf a = true) ∧
    check src.now [leaf] = .ok ()

variable {src : Sources} {leaf : Certificate}

/-- Nothing issues a certificate that is not sound. -/
theorem issues_eq_false (issuer : Certificate) {c : Certificate} (h : c.isSound = false) :
    issues issuer c = false := by
  simp [issues, h]

/-- The search from a leaf that is not sound can only settle for the leaf itself. -/
theorem search_eq_settle (h : leaf.isSound = false) :
    src.search leaf = src.settle ⟨leaf, []⟩ := by
  have htrusted : src.trustedIssuer? leaf = none := by
    simp only [Sources.trustedIssuer?, issues_eq_false _ h, List.filter_false]
    rfl
  have hoffered : src.offeredIssuer? ⟨leaf, []⟩ = none := by
    simp only [Sources.offeredIssuer?, issues_eq_false _ h, Bool.false_and, List.filter_false]
    rfl
  have hsigned : ¬isSelfSigned leaf = true := by
    simp [isSelfSigned, issues_eq_false leaf h]
  rw [Sources.search, Sources.room, Sources.grow]
  simp only [htrusted, hoffered, if_neg hsigned]

/-- A leaf that is not sound is validated exactly when it passes alone. -/
theorem validate_iff_passesAlone (hread : src.AllRead leaf) (h : leaf.isSound = false) :
    validate src leaf = .ok () ↔ PassesAlone src leaf := by
  have hcopy {a : Certificate} (ha : a ∈ src.trusted) (hsame : same leaf a = true) :
      check src.now [a] = check src.now [leaf] :=
    Certificate.congr_body (fun c => check src.now [c]) (fun _ _ _ _ _ => rfl)
      (hread.leaf.body_eq_of_same (hread.trusted a ha) hsame).symm
  unfold validate PassesAlone
  rw [search_eq_settle h, Sources.settle]
  split
  · rename_i copy hfound
    split at hfound
    · rename_i hpartial
      have htrusted := List.mem_of_find?_eq_some hfound
      have hsame : same leaf copy = true := List.find?_some hfound
      change check src.now [copy] = .ok () ↔ _
      rw [hcopy htrusted hsame]
      constructor
      · intro hchecked
        exact ⟨hpartial, ⟨copy, htrusted, hsame⟩, hchecked⟩
      · rintro ⟨-, -, hchecked⟩
        exact hchecked
    · cases hfound
  · rename_i hnone
    constructor
    · intro hfail
      split at hfail <;> cases hfail
    · rintro ⟨hpartial, ⟨a, ha, hsame⟩, -⟩
      rw [if_pos hpartial] at hnone
      exact absurd hsame (List.find?_eq_none.mp hnone a ha)

end Path

namespace TrustStore

variable {store : TrustStore} {now : X509.Moment} {chain : PeerChain} {host : String}
  {leaf : X509.Certificate} {offered : List X509.Certificate}

/-- A chain that can be read is valid for a host when its leaf is validated and is one for the
host. -/
theorem validate_eq_ok_iff (hread : readAll chain.certificates = .ok (leaf :: offered)) :
    store.validate now chain host = .ok () ↔
      Path.validate (store.sources offered now) leaf = .ok () ∧
        Path.matchesHost leaf host = true := by
  cases hchain : chain.certificates with
  | nil =>
    rw [hchain] at hread
    cases hread
  | cons first rest =>
    rw [hchain] at hread
    obtain ⟨hleaf, hrest⟩ := List.forall₂_cons.mp (mapM_eq_ok_iff.mp hread)
    have hoffered : readAll rest = .ok offered := mapM_eq_ok_iff.mpr hrest
    unfold validate validatePath
    rw [hchain]
    simp only [hleaf, hoffered]
    cases Path.validate (store.sources offered now) leaf with
    | error fault => simp
    | ok _ => simp

/-- A leaf that has alternative names, in whatever form, and is valid for a host that is no address
is so by one of them, except when it passes alone, its alternative names are unusable and a common
name covers the host: exactly then it is valid all the same. Only a leaf that is an anchor itself
passes alone, so this never happens with the platform's certificates. -/
theorem validate_altName (hstore : store.Loaded)
    (hread : readAll chain.certificates = .ok (leaf :: offered))
    (hhost : Address.ofText? host.toList = none)
    (hext : leaf.hasExtension X509.oidSubjectAltName = true) :
    ((store.validate now chain host = .ok () → Path.NamedByAltName leaf host) ↔
      ¬(Path.PassesAlone (store.sources offered now) leaf ∧
        Path.NamesDespiteAltNames leaf host)) ∧
    (Path.PassesAlone (store.sources offered now) leaf →
      store.origin = .anchors ∧ ∃ a ∈ store.certificates, a.body = leaf.body) := by
  have hall : (store.sources offered now).AllRead leaf := by
    have hcertificates := isRead_of_readAll hread
    exact ⟨hcertificates leaf List.mem_cons_self, hstore.isRead,
      fun c hc => hcertificates c (List.mem_cons_of_mem _ hc)⟩
  refine ⟨?_, ?_⟩
  · rw [validate_eq_ok_iff hread]
    cases halt : leaf.altNames with
    | absent => exact absurd halt (X509.Certificate.states_ne_absent hext _)
    | unusable =>
      have hunnamed : ¬Path.NamedByAltName leaf host := by
        rintro ⟨names, -, -, hstated, -⟩
        rw [halt] at hstated
        cases hstated
      rw [Path.validate_iff_passesAlone hall (X509.Certificate.isSound_of_altNames halt),
        Path.matchesHost_iff_namesDespite halt hhost]
      exact ⟨fun hclaim hpasses => hunnamed (hclaim hpasses), fun hnone hpasses =>
        absurd hpasses hnone⟩
    | stated names =>
      have hstated : ¬Path.NamesDespiteAltNames leaf host := by
        rintro ⟨hunusable, -⟩
        rw [halt] at hunusable
        cases hunusable
      rw [Path.matchesHost_iff_namedByAltName halt hhost]
      exact ⟨fun _ hpasses => hstated hpasses.2, fun _ hvalid => hvalid.2⟩
  · rintro ⟨hpartial, ⟨a, ha, hsame⟩, -⟩
    refine ⟨of_decide_eq_true hpartial, a, ha, ?_⟩
    exact (hall.leaf.body_eq_of_same (hall.trusted a ha) hsame).symm

/-- A certificate that is its own anchor and valid for a host is so by its alternative name. -/
theorem validate_altName_specimen :
    ∃ store chain leaf, Loaded store ∧ readAll chain.certificates = .ok [leaf] ∧
      Address.ofText? "a.example.com".toList = none ∧
      leaf.hasExtension X509.oidSubjectAltName = true ∧
      store.validate (X509.Moment.of 2026 1 1 0 0 0) chain "a.example.com" = .ok () ∧
      Path.NamedByAltName leaf "a.example.com" := by
  have hrun : ∃ chain ∈ (PeerChain.ofDers
        [Specimen.certificate [Utf8.encodeString "a.example.com"]]).toOption,
      ∃ store ∈ (ofAnchors chain.certificates).toOption,
      ∃ leaf ∈ X509.Certificate.ofDer?
        (Specimen.certificate [Utf8.encodeString "a.example.com"]),
        readAll chain.certificates = .ok [leaf] ∧
        leaf.hasExtension X509.oidSubjectAltName = true ∧ leaf.altNames ≠ .unusable ∧
        store.validate (X509.Moment.of 2026 1 1 0 0 0) chain "a.example.com" = .ok () := by
    decide +kernel
  obtain ⟨chain, -, store, hstore, leaf, -, hread, hext, halt, hvalid⟩ := hrun
  have hloaded : Loaded store := .anchors (eq_ok_of_mem_toOption hstore)
  have hhost : Address.ofText? "a.example.com".toList = none := by decide
  have hnamed := (validate_altName hloaded hread hhost hext).1.mpr (fun h => halt h.2.1) hvalid
  exact ⟨store, chain, leaf, hloaded, hread, hhost, hext, hvalid, hnamed⟩

/-- A certificate that is its own anchor and has alternative names twice is valid for the host that
is its common name. -/
theorem validate_repeated_altNames :
    ∃ store chain leaf, Loaded store ∧ readAll chain.certificates = .ok [leaf] ∧
      Address.ofText? "a".toList = none ∧ leaf.hasExtension X509.oidSubjectAltName = true ∧
      store.validate (X509.Moment.of 2026 1 1 0 0 0) chain "a" = .ok () ∧
      ¬Path.NamedByAltName leaf "a" := by
  have hrun : ∃ chain ∈ (PeerChain.ofDers [Specimen.certificateWith
        (List.replicate 2 (Specimen.altNames [Utf8.encodeString "b"]))]).toOption,
      ∃ store ∈ (ofAnchors chain.certificates).toOption,
      ∃ leaf ∈ X509.Certificate.ofDer? (Specimen.certificateWith
        (List.replicate 2 (Specimen.altNames [Utf8.encodeString "b"]))),
        readAll chain.certificates = .ok [leaf] ∧
        leaf.hasExtension X509.oidSubjectAltName = true ∧ leaf.altNames = .unusable ∧
        store.validate (X509.Moment.of 2026 1 1 0 0 0) chain "a" = .ok () := by
    decide +kernel
  obtain ⟨chain, -, store, hstore, leaf, -, hread, hext, halt, hvalid⟩ := hrun
  refine ⟨store, chain, leaf, .anchors (eq_ok_of_mem_toOption hstore), hread, by decide, hext,
    hvalid, ?_⟩
  rintro ⟨names, -, -, hstated, -⟩
  rw [halt] at hstated
  cases hstated

end TrustStore

end PeerTrust
