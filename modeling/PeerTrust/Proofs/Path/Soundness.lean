import PeerTrust.Proofs.Path.Checks
import PeerTrust.Proofs.Path.Search
import PeerTrust.Proofs.ReadEach
import PeerTrust.Proofs.Specimen
import PeerTrust.TrustStore

/-!
# Soundness of validation

A chain that is valid for a host has a path from its leaf to the store, every link of which is
named and signed, every certificate of which is valid now, fit for a server and, but for the leaf,
one of an authority. The search answers for where the certificates come from and for their names,
the checks for all else.

The path of a leaf that is trusted itself is the leaf alone. Extensions that are not sound are only
found there: the check of purpose passes over such a leaf, and nothing is issued by or to it.
-/

namespace PeerTrust

namespace Path

open PeerTrust.X509

/-- A path, leaf first, by which a leaf is trusted. -/
structure Certifies (src : Sources) (leaf : Certificate) (path : List Certificate) : Prop where
  first : path.head? = some leaf
  /-- The last certificate is a trusted one. A leaf alone may be another copy of it. -/
  anchored : ∃ a ∈ src.trusted, path.getLast? = some a ∨ path = [leaf] ∧ same leaf a = true
  /-- Where partial paths are not enough, the last certificate is its own issuer. -/
  rooted : src.partialEnough = false → ∀ last ∈ path.getLast?, last.isSelfIssued = true
  drawn : ∀ c ∈ path.tail, c ∈ src.trusted ∨ c ∈ src.offered
  named : path.IsChain fun lower upper => upper.body.subject.same lower.body.issuer = true
  signed : path.IsChain fun lower upper => isSignedBy lower upper = true
  /-- Every certificate is valid now, by the times that it names. -/
  current : ∀ c ∈ path, IsValidAt src.now c
  /-- Every certificate but the leaf is one of an authority, all but the last by a mark. -/
  authorities : ∀ i c, 0 < i → path[i]? = some c →
    ∃ ground, IsAuthority c ground ∧ (i + 1 ≠ path.length → ground = .marked)
  /-- Every certificate is for a server. One that is not sound is not held to it. -/
  suited : ∀ i c, path[i]? = some c → c.isSound = true → IsForServer i c
  /-- Only a leaf that is alone on its path may be one that is not sound. -/
  sound : 1 < path.length → ∀ c ∈ path, c.isSound = true

variable {src : Sources} {leaf : Certificate}

/-- Where partial paths are not enough, a certificate that may end a path is its own issuer. -/
theorem isSelfIssued_of_ends {c : Certificate}
    (hends : isSelfSigned c = true ∨ src.partialEnough = true)
    (hwhole : src.partialEnough = false) : c.isSelfIssued = true := by
  rcases hends with hsigned | hpartial
  · simp only [isSelfSigned, issues, Bool.and_eq_true] at hsigned
    exact hsigned.1.1.1.1
  · rw [hwhole] at hpartial
    cases hpartial

/-- A checked path of issuers up to a trusted certificate certifies the leaf. -/
theorem certifies_of_grown {s : Stretch} (hgrown : src.Grown leaf s)
    (htrusted : s.top ∈ src.trusted)
    (hends : isSelfSigned s.top = true ∨ src.partialEnough = true)
    (hchecked : Checked src.now s.toList) : Certifies src leaf s.toList.reverse := by
  have hlast : s.toList.reverse.getLast? = some s.top := by
    rw [List.getLast?_reverse]
    rfl
  constructor
  · rw [List.head?_reverse, hgrown.getLast?]
  · exact ⟨s.top, htrusted, .inl hlast⟩
  · intro hwhole last hmem
    rw [hlast] at hmem
    rw [← Option.some.inj hmem]
    exact isSelfIssued_of_ends hends hwhole
  · intro c hc
    rw [List.tail_reverse, List.mem_reverse] at hc
    exact hgrown.drawn c hc
  · rw [List.isChain_reverse]
    refine hgrown.linked.imp ?_
    intro upper lower hissues
    simp only [issues, Bool.and_eq_true] at hissues
    exact hissues.1.1.1.1
  · rw [List.isChain_reverse]
    exact hchecked.signed
  · intro c hc
    exact hchecked.current c (List.mem_reverse.mp hc)
  · rw [List.length_reverse]
    exact hchecked.authorities
  · exact hchecked.suited
  · intro hlong c hc
    rw [List.length_reverse] at hlong
    refine hgrown.sound ?_ c (List.mem_reverse.mp hc)
    intro hnil
    rw [Stretch.toList, hnil, List.length_singleton] at hlong
    exact Nat.lt_irrefl _ hlong

/-- A leaf that is the same as a trusted certificate, which was checked as a leaf, certifies
itself. -/
theorem certifies_of_copy {i : Certificate} {path : List Certificate} (htrusted : i ∈ src.trusted)
    (hlast : path.getLast? = some i) (hsame : same leaf i = true) (hbody : i.body = leaf.body)
    (hends : isSelfSigned leaf = true ∨ src.partialEnough = true)
    (hchecked : Checked src.now path) : Certifies src leaf [leaf] := by
  have hmem : i ∈ path := List.mem_of_getLast? hlast
  have hfirst : path.reverse[0]? = some i := by
    rw [← List.head?_eq_getElem?, List.head?_reverse, hlast]
  have hcurrent : IsValidAt src.now leaf := by
    rw [← isCurrent_iff, ← Certificate.congr_body (isCurrent src.now) (fun _ _ _ _ _ => rfl) hbody,
      isCurrent_iff]
    exact hchecked.current i hmem
  have hsuited : leaf.isSound = true → IsForServer 0 leaf := by
    rw [← suits_iff, ← Certificate.congr_body (suits 0) (fun _ _ _ _ _ => rfl) hbody, suits_iff]
    exact hchecked.suited 0 i hfirst
  constructor
  · rfl
  · exact ⟨i, htrusted, .inr ⟨rfl, hsame⟩⟩
  · intro hwhole last hlast
    rw [← Option.some.inj hlast]
    exact isSelfIssued_of_ends hends hwhole
  · intro c hc
    cases hc
  · exact .singleton _
  · exact .singleton _
  · intro c hc
    rw [List.mem_singleton.mp hc]
    exact hcurrent
  · intro j c hj hc
    rw [List.getElem?_singleton, if_neg (Nat.ne_of_gt hj)] at hc
    cases hc
  · intro j c hc
    rw [List.getElem?_singleton] at hc
    split at hc
    · rename_i hzero
      rw [← Option.some.inj hc, hzero]
      exact hsuited
    · cases hc
  · intro hlong
    exact absurd hlong (Nat.lt_irrefl _)

/-- A leaf for which a path is found and checked is certified by one. -/
theorem exists_certifies (hread : src.AllRead leaf) (h : validate src leaf = .ok ()) :
    ∃ path, Certifies src leaf path := by
  unfold validate at h
  cases hsearch : src.search leaf with
  | error fault =>
    rw [hsearch] at h
    cases h
  | ok s =>
    rw [hsearch] at h
    have hchecked := checked_of_check h
    rcases (Sources.search_found hsearch).ends hread with
      ⟨hgrown, htrusted, hends⟩ | ⟨i, htrusted, hlast, hsame, hbody, hends⟩
    · exact ⟨_, certifies_of_grown hgrown htrusted hends hchecked⟩
    · exact ⟨_, certifies_of_copy htrusted hlast hsame hbody hends hchecked⟩

end Path

namespace TrustStore

/-- The stores there are: anchors, and the certificates of a platform. -/
inductive Loaded : TrustStore → Prop
  | anchors {anchors : List PeerCertificate} {store : TrustStore}
    (hstore : ofAnchors anchors = .ok store) : Loaded store
  | platform {certificates : List PeerCertificate} {trusted : List X509.Certificate}
    (hread : readAll certificates = .ok trusted) : Loaded ⟨.platform, trusted⟩

theorem reread_eq_ok_iff {der : Bytes} {x : X509.Certificate} :
    reread der = .ok x ↔ X509.Certificate.ofDer? der = some x := by
  unfold reread
  cases X509.Certificate.ofDer? der <;> simp

/-- Certificates of a peer's that are read once more were read. -/
theorem isRead_of_readAll {certificates : List PeerCertificate} {read : List X509.Certificate}
    (h : readAll certificates = .ok read) : ∀ c ∈ read, c.IsRead := by
  intro c hc
  obtain ⟨source, -, hsource⟩ := exists_of_forall₂ (mapM_eq_ok_iff.mp h) hc
  exact ⟨source.der, reread_eq_ok_iff.mp hsource⟩

/-- The certificates of a store were read. -/
theorem Loaded.isRead {store : TrustStore} (h : store.Loaded) :
    ∀ c ∈ store.certificates, c.IsRead := by
  cases h with
  | @anchors anchors _ hstore =>
    unfold ofAnchors at hstore
    split at hstore
    · cases hstore
    · split at hstore
      · rename_i trusted hread
        cases hstore
        exact isRead_of_readAll hread
      · cases hstore
  | platform hread => exact isRead_of_readAll hread

/-- A chain that is valid for a host begins with a leaf for the host, and a path of certificates of
the chain and the store certifies the leaf. Since only anchors may end a path without signing
themselves, the path to a platform's certificate ends in its own issuer. -/
theorem validate_sound {store : TrustStore} (hstore : store.Loaded) {now : X509.Moment}
    {chain : PeerChain} {host : String} (hvalid : store.validate now chain host = .ok ()) :
    ∃ leaf offered, readAll chain.certificates = .ok (leaf :: offered) ∧
      Path.matchesHost leaf host = true ∧
      ∃ path, Path.Certifies (store.sources offered now) leaf path := by
  unfold validate at hvalid
  split at hvalid
  · cases hvalid
  · rename_i leaf hpath
    split at hvalid
    · rename_i hhost
      unfold validatePath at hpath
      split at hpath
      · cases hpath
      · rename_i first rest hchain
        split at hpath
        · cases hpath
        · cases hpath
        · rename_i leaf' offered hleaf hoffered
          split at hpath
          · rename_i hvalidated
            cases hpath
            have hread : (store.sources offered now).AllRead leaf :=
              ⟨⟨first.der, reread_eq_ok_iff.mp hleaf⟩, hstore.isRead, isRead_of_readAll hoffered⟩
            refine ⟨leaf, offered, ?_, hhost, Path.exists_certifies hread hvalidated⟩
            rw [hchain]
            exact mapM_eq_ok_iff.mpr (.cons hleaf (mapM_eq_ok_iff.mp hoffered))
          · cases hpath
    · cases hvalid

/-- A certificate that is its own anchor is valid for its host, by the path of itself. -/
theorem validate_specimen :
    ∃ (store : TrustStore) (chain : PeerChain), store.Loaded ∧
      store.validate (X509.Moment.of 2026 1 1 0 0 0) chain "a.example.com" = .ok () ∧
      ∃ leaf offered path, readAll chain.certificates = .ok (leaf :: offered) ∧
        Path.Certifies (store.sources offered (X509.Moment.of 2026 1 1 0 0 0)) leaf path := by
  have hrun : ∃ chain ∈ (PeerChain.ofDers
        [Specimen.certificate [Utf8.encodeString "a.example.com"]]).toOption,
      ∃ store ∈ (ofAnchors chain.certificates).toOption,
        store.validate (X509.Moment.of 2026 1 1 0 0 0) chain "a.example.com" = .ok () := by
    decide +kernel
  obtain ⟨chain, -, store, hstore, hvalid⟩ := hrun
  have hanchors : ofAnchors chain.certificates = .ok store := by
    cases hresult : ofAnchors chain.certificates with
    | error fault =>
      rw [hresult] at hstore
      cases hstore
    | ok loaded =>
      rw [hresult] at hstore
      rw [← Option.some.inj hstore]
  obtain ⟨leaf, offered, hread, -, path, hpath⟩ := validate_sound (.anchors hanchors) hvalid
  exact ⟨store, chain, .anchors hanchors, hvalid, leaf, offered, path, hread, hpath⟩

end TrustStore

end PeerTrust
