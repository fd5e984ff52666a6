import PeerTrust.Proofs.Path.Soundness
import PeerTrust.Proofs.Rereading

/-!
# Chains that are unreadable

Path validation reads the certificates of a chain from their octets, the first on its own and then
the others. It could not exactly when a certificate was lost in writing, and then it tells the octets
of the first that was.
-/

namespace PeerTrust

/-- A certificate is the first of a list that was lost in writing. -/
def PeerCertificate.FirstLost (certificates : List PeerCertificate) (c : PeerCertificate) : Prop :=
  ∃ before after, certificates = before ++ c :: after ∧ (∀ b ∈ before, ¬b.LostInWriting)
    ∧ c.LostInWriting

namespace TrustStore

section Lists

variable {certificates : List PeerCertificate} {c : PeerCertificate} {der : Bytes}

theorem reread_eq_error_iff (h : c.IsRead) :
    reread c.der = .error der ↔ c.LostInWriting ∧ c.der = der := by
  rw [← h.ofDer?_der_eq_none_iff]
  unfold reread
  cases X509.Certificate.ofDer? c.der <;> simp

theorem exists_reread_iff (h : c.IsRead) : (∃ x, reread c.der = .ok x) ↔ ¬c.LostInWriting := by
  rw [← h.ofDer?_der_eq_none_iff, ← ne_eq, Option.ne_none_iff_exists']
  simp only [reread_eq_ok_iff]

/-- Certificates that were read are read once more, unless one was lost in writing. -/
theorem readAll_eq_error_iff (h : ∀ c ∈ certificates, c.IsRead) :
    readAll certificates = .error der
      ↔ ∃ c, PeerCertificate.FirstLost certificates c ∧ c.der = der := by
  refine mapM_eq_error_iff.trans ?_
  constructor
  · rintro ⟨before, c, after, rfl, hbefore, hc⟩
    obtain ⟨hlost, hder⟩ := (reread_eq_error_iff (h c (by simp))).mp hc
    refine ⟨c, ⟨before, after, rfl, fun b hb => ?_, hlost⟩, hder⟩
    exact (exists_reread_iff (h b (List.mem_append_left _ hb))).mp (hbefore b hb)
  · rintro ⟨c, ⟨before, after, rfl, hbefore, hlost⟩, hder⟩
    refine ⟨before, c, after, rfl, fun b hb => ?_, ?_⟩
    · exact (exists_reread_iff (h b (List.mem_append_left _ hb))).mpr (hbefore b hb)
    · exact (reread_eq_error_iff (h c (by simp))).mpr ⟨hlost, hder⟩

theorem exists_readAll_iff (h : ∀ c ∈ certificates, c.IsRead) :
    (∃ xs, readAll certificates = .ok xs) ↔ ∀ c ∈ certificates, ¬c.LostInWriting := by
  constructor
  · rintro ⟨xs, hxs⟩ c hc
    obtain ⟨x, -, hx⟩ := exists_image_of_forall₂ (mapM_eq_ok_iff.mp hxs) hc
    exact (exists_reread_iff (h c hc)).mp ⟨x, hx⟩
  · intro hkept
    exact exists_mapM_of_forall fun c hc => (exists_reread_iff (h c hc)).mpr (hkept c hc)

end Lists

section Chains

variable {store : TrustStore} {now : X509.Moment} {chain : PeerChain} {host : String}
  {leaf : PeerCertificate} {rest : List PeerCertificate} {der : Bytes}

theorem validate_of_nil (h : chain.certificates = []) :
    store.validate now chain host = .error .emptyChain := by
  unfold validate validatePath
  rw [h]

theorem validate_of_leaf (h : chain.certificates = leaf :: rest) (hleaf : reread leaf.der = .error der) :
    store.validate now chain host = .error (.unreadableLeaf der) := by
  unfold validate validatePath
  rw [h]
  simp only [hleaf]

theorem validate_of_rest {x : X509.Certificate} (h : chain.certificates = leaf :: rest)
    (hleaf : reread leaf.der = .ok x) (hrest : readAll rest = .error der) :
    store.validate now chain host = .error (.unreadableIntermediate der) := by
  unfold validate validatePath
  rw [h]
  simp only [hleaf, hrest]

/-- A chain that is read whole is judged by its path and by the names of its leaf. -/
theorem fault_of_validate {x : X509.Certificate} {offered : List X509.Certificate}
    {fault : ValidationFault} (h : chain.certificates = leaf :: rest) (hleaf : reread leaf.der = .ok x)
    (hrest : readAll rest = .ok offered) (hfault : store.validate now chain host = .error fault) :
    (∃ cause, fault = .path leaf.der cause) ∨ fault = .hostMismatch host := by
  unfold validate validatePath at hfault
  rw [h] at hfault
  simp only [hleaf, hrest] at hfault
  cases hpath : Path.validate (store.sources offered now) x with
  | error cause =>
    rw [hpath] at hfault
    exact .inl ⟨cause, (Except.error.inj hfault).symm⟩
  | ok _ =>
    rw [hpath] at hfault
    dsimp only at hfault
    split at hfault
    · cases hfault
    · exact .inr (Except.error.inj hfault).symm

/-- The first certificate of a chain is told to be unreadable when it was lost in writing. -/
theorem validate_eq_unreadableLeaf_iff (hread : ∀ c ∈ chain.certificates, c.IsRead) :
    store.validate now chain host = .error (.unreadableLeaf der)
      ↔ ∃ leaf rest, chain.certificates = leaf :: rest ∧ leaf.LostInWriting ∧ leaf.der = der := by
  cases hchain : chain.certificates with
  | nil =>
    rw [validate_of_nil hchain]
    exact iff_of_false nofun nofun
  | cons leaf rest =>
    have hlost (der : Bytes) : reread leaf.der = .error der ↔ leaf.LostInWriting ∧ leaf.der = der :=
      reread_eq_error_iff (hread leaf (by simp [hchain]))
    cases hleaf : reread leaf.der with
    | error found =>
      obtain ⟨hleafLost, rfl⟩ := (hlost found).mp hleaf
      rw [validate_of_leaf hchain hleaf]
      simp [hleafLost]
    | ok x =>
      refine iff_of_false (fun hfault => ?_) ?_
      · cases hrest : readAll rest with
        | error found =>
          rw [validate_of_rest hchain hleaf hrest] at hfault
          cases hfault
        | ok offered =>
          rcases fault_of_validate hchain hleaf hrest hfault with ⟨_, h⟩ | h <;> cases h
      · rintro ⟨_, _, ⟨⟩, hleafLost⟩
        rw [(hlost der).mpr hleafLost] at hleaf
        cases hleaf

/-- A later certificate of a chain is told to be unreadable when it is the first that was lost in
writing. -/
theorem validate_eq_unreadableIntermediate_iff (hread : ∀ c ∈ chain.certificates, c.IsRead) :
    store.validate now chain host = .error (.unreadableIntermediate der)
      ↔ ∃ leaf rest c, chain.certificates = leaf :: rest ∧ ¬leaf.LostInWriting
        ∧ PeerCertificate.FirstLost rest c ∧ c.der = der := by
  cases hchain : chain.certificates with
  | nil =>
    rw [validate_of_nil hchain]
    exact iff_of_false nofun nofun
  | cons leaf rest =>
    rw [hchain] at hread
    obtain ⟨hreadLeaf, hreadRest⟩ := List.forall_mem_cons.mp hread
    have hlost (der : Bytes) :
        readAll rest = .error der ↔ ∃ c, PeerCertificate.FirstLost rest c ∧ c.der = der :=
      readAll_eq_error_iff hreadRest
    cases hleaf : reread leaf.der with
    | error found =>
      rw [validate_of_leaf hchain hleaf]
      refine iff_of_false nofun ?_
      rintro ⟨_, _, _, ⟨⟩, hkept, -⟩
      exact hkept ((reread_eq_error_iff hreadLeaf).mp hleaf).1
    | ok x =>
      have hkept := (exists_reread_iff hreadLeaf).mp ⟨x, hleaf⟩
      cases hrest : readAll rest with
      | error found =>
        rw [validate_of_rest hchain hleaf hrest, Except.error.injEq,
          ValidationFault.unreadableIntermediate.injEq]
        constructor
        · rintro rfl
          obtain ⟨c, hc, hder⟩ := (hlost found).mp hrest
          exact ⟨leaf, rest, c, rfl, hkept, hc, hder⟩
        · rintro ⟨_, _, c, ⟨⟩, -, hc⟩
          rw [(hlost der).mpr ⟨c, hc⟩] at hrest
          exact (Except.error.inj hrest).symm
      | ok offered =>
        refine iff_of_false (fun hfault => ?_) ?_
        · rcases fault_of_validate hchain hleaf hrest hfault with ⟨_, h⟩ | h <;> cases h
        · rintro ⟨_, _, c, ⟨⟩, -, hc⟩
          rw [(hlost der).mpr ⟨c, hc⟩] at hrest
          cases hrest

end Chains

end TrustStore

end PeerTrust
