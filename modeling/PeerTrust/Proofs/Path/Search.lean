import Mathlib.Data.List.Chain
import PeerTrust.Path.Search
import PeerTrust.Proofs.X509.Identity

/-!
# What a search finds

A search grows its path one issuer at a time, each from among the trusted or the offered
certificates. It ends in one of three ways: with a trusted issuer pushed on top, with the trusted
copy of a certificate that signs itself put in its place, or with the trusted copy of the leaf put
in the leaf's place.

Copies are the same when they are written alike. Where all certificates were read, copies agree in
all that is signed, and the three ways are two: a path of issuers up to a trusted certificate, or a
leaf that is trusted itself.
-/

namespace PeerTrust.Path

open PeerTrust.X509

/-- The last to expire is one of the certificates. -/
theorem mem_of_lastToExpire? {candidates : List Certificate} {c : Certificate}
    (h : lastToExpire? candidates = some c) : c ∈ candidates := by
  have hfold (rest : List Certificate) (best : Certificate) :
      rest.foldl (fun best c => if outlives c best then c else best) best ∈ best :: rest := by
    induction rest generalizing best with
    | nil => exact List.mem_cons_self
    | cons next rest ih =>
      rw [List.foldl_cons]
      by_cases hlonger : outlives next best = true
      · rw [if_pos hlonger]
        exact List.mem_cons_of_mem _ (ih next)
      · rw [if_neg hlonger]
        rcases List.mem_cons.mp (ih best) with hbest | hrest
        · rw [hbest]
          exact List.mem_cons_self
        · exact List.mem_cons_of_mem _ (List.mem_cons_of_mem _ hrest)
  cases candidates with
  | nil => cases h
  | cons first rest =>
    rw [← Option.some.inj h]
    exact hfold rest first

/-- The best of several issuers is one of them. -/
theorem mem_of_best? {now : Moment} {candidates : List Certificate} {c : Certificate}
    (h : best? now candidates = some c) : c ∈ candidates := by
  rcases Option.or_eq_some_iff.mp h with hfirst | ⟨-, hlast⟩
  · exact List.mem_of_find?_eq_some hfirst
  · exact mem_of_lastToExpire? hlast

namespace Sources

variable {src : Sources} {leaf : Certificate}

/-- A trusted issuer is trusted and may be the issuer. -/
theorem trustedIssuer?_spec {c i : Certificate} (h : src.trustedIssuer? c = some i) :
    i ∈ src.trusted ∧ issues i c = true :=
  List.mem_filter.mp (mem_of_best? h)

/-- An offered issuer is offered and may be the issuer. -/
theorem offeredIssuer?_spec {s : Stretch} {i : Certificate} (h : src.offeredIssuer? s = some i) :
    i ∈ src.offered ∧ issues i s.top = true := by
  obtain ⟨hmem, hfits⟩ := List.mem_filter.mp (mem_of_best? h)
  exact ⟨hmem, (Bool.and_eq_true_iff.mp hfits).1⟩

/-- The paths of issuers that begin at a leaf. -/
inductive Grown (src : Sources) (leaf : Certificate) : Stretch → Prop
  | leaf : Grown src leaf ⟨leaf, []⟩
  | push {s : Stretch} {i : Certificate} (hgrown : Grown src leaf s)
    (hdrawn : i ∈ src.trusted ∨ i ∈ src.offered) (hissues : issues i s.top = true) :
    Grown src leaf (s.push i)

/-- The paths with which a search may end. -/
inductive Found (src : Sources) (leaf : Certificate) : Stretch → Prop
  /-- A trusted issuer ends the path. -/
  | anchored {s : Stretch} {i : Certificate} (hgrown : Grown src leaf s)
    (htrusted : i ∈ src.trusted) (hissues : issues i s.top = true)
    (hends : isSelfSigned i = true ∨ src.partialEnough = true) :
    Found src leaf (s.push i)
  /-- A certificate that signs itself makes room for its trusted copy. -/
  | replaced {s : Stretch} {i : Certificate} (hgrown : Grown src leaf s)
    (htrusted : i ∈ src.trusted) (hsigned : isSelfSigned s.top = true)
    (hsame : same s.top i = true) :
    Found src leaf ⟨i, s.below⟩
  /-- The leaf makes room for its trusted copy. -/
  | settled {s : Stretch} {i : Certificate} (hgrown : Grown src leaf s)
    (htrusted : i ∈ src.trusted) (hpartial : src.partialEnough = true)
    (hsame : same s.leaf i = true) :
    Found src leaf (s.withLeaf i)

/-- A search among trusted certificates ends as a search may. -/
theorem climb_found {room : Nat} {s found : Stretch} (hgrown : Grown src leaf s)
    (h : src.climb room s = .ok found) : Found src leaf found := by
  induction room generalizing s with
  | zero => cases h
  | succ room ih =>
    rw [climb] at h
    split at h
    · cases h
    · rename_i i hissuer
      obtain ⟨htrusted, hissues⟩ := trustedIssuer?_spec hissuer
      split at h
      · rename_i hsigned
        cases h
        exact .anchored hgrown htrusted hissues (.inl hsigned)
      · exact ih (.push hgrown (.inl htrusted) hissues) h

/-- A leaf that is trusted itself ends a search as it may. -/
theorem settle_found {s found : Stretch} (hgrown : Grown src leaf s)
    (h : src.settle s = .ok found) : Found src leaf found := by
  unfold settle at h
  split at h
  · rename_i i hcopy
    cases h
    split at hcopy
    · rename_i hpartial
      exact .settled hgrown (List.mem_of_find?_eq_some hcopy) hpartial
        (List.find?_some hcopy)
    · cases hcopy
  · split at h
    · cases h
    · cases h

/-- A search from a certificate that is not known to be trusted ends as a search may. -/
theorem grow_found {room : Nat} {s found : Stretch} (hgrown : Grown src leaf s)
    (h : src.grow room s = .ok found) : Found src leaf found := by
  induction room generalizing s with
  | zero => cases h
  | succ room ih =>
    rw [grow] at h
    split at h
    · rename_i i hissuer
      obtain ⟨htrusted, hissues⟩ := trustedIssuer?_spec hissuer
      split at h
      · rename_i hsigned
        split at h
        · rename_i hsame
          cases h
          exact .replaced hgrown htrusted hsigned hsame
        · exact settle_found hgrown h
      · split at h
        · rename_i hends
          cases h
          exact .anchored hgrown htrusted hissues (Bool.or_eq_true_iff.mp hends)
        · exact climb_found (.push hgrown (.inl htrusted) hissues) h
    · split at h
      · exact settle_found hgrown h
      · split at h
        · rename_i i hissuer
          obtain ⟨hoffered, hissues⟩ := offeredIssuer?_spec hissuer
          exact ih (.push hgrown (.inr hoffered) hissues) h
        · exact settle_found hgrown h

/-- A search that ends well ends as a search may. -/
theorem search_found {found : Stretch} (h : src.search leaf = .ok found) : Found src leaf found :=
  grow_found .leaf h

namespace Grown

/-- Every certificate above the leaf is a trusted or an offered one. -/
theorem drawn {s : Stretch} (h : Grown src leaf s) :
    ∀ c ∈ s.toList.dropLast, c ∈ src.trusted ∨ c ∈ src.offered := by
  induction h with
  | leaf => simp [Stretch.toList]
  | @push s i _ hdrawn _ ih =>
    intro c hc
    have hlist : (s.push i).toList.dropLast = i :: s.toList.dropLast := rfl
    rw [hlist] at hc
    rcases List.mem_cons.mp hc with rfl | hc
    · exact hdrawn
    · exact ih c hc

/-- The leaf is at the bottom. -/
theorem getLast? {s : Stretch} (h : Grown src leaf s) : s.toList.getLast? = some leaf := by
  induction h with
  | leaf => rfl
  | push _ _ _ ih => rw [Stretch.push, Stretch.toList, List.getLast?_cons, ih]; rfl

/-- Every certificate may be the issuer of the one below it. -/
theorem linked {s : Stretch} (h : Grown src leaf s) :
    s.toList.IsChain fun upper lower => issues upper lower = true := by
  induction h with
  | leaf => exact .singleton _
  | push _ _ hissues ih => exact .cons_cons hissues ih

/-- Where a leaf has an issuer, the extensions of all certificates are sound. -/
theorem sound {s : Stretch} (h : Grown src leaf s) (hbelow : s.below ≠ []) :
    ∀ c ∈ s.toList, c.isSound = true := by
  induction h with
  | leaf => exact absurd rfl hbelow
  | @push s i hgrown _ hissues ih =>
    have hends : i.isSound = true ∧ s.top.isSound = true := by
      simp only [issues, Bool.and_eq_true] at hissues
      exact ⟨hissues.1.1.1.2, hissues.1.1.2⟩
    intro c hc
    rcases List.mem_cons.mp hc with rfl | hc
    · exact hends.1
    · change c ∈ s.toList at hc
      by_cases hsingle : s.below = []
      · have hlist : s.toList = [s.top] := congrArg (s.top :: ·) hsingle
        rw [hlist, List.mem_singleton] at hc
        rw [hc]
        exact hends.2
      · exact ih hsingle c hc

end Grown

/-- All certificates that a search may use were read. -/
structure AllRead (src : Sources) (leaf : Certificate) : Prop where
  leaf : leaf.IsRead
  trusted : ∀ c ∈ src.trusted, c.IsRead
  offered : ∀ c ∈ src.offered, c.IsRead

/-- Every certificate of a path was read. -/
theorem Grown.isRead (hread : AllRead src leaf) {s : Stretch} (h : Grown src leaf s) :
    ∀ c ∈ s.toList, c.IsRead := by
  induction h with
  | leaf =>
    intro c hc
    rw [List.mem_singleton.mp hc]
    exact hread.leaf
  | push _ hdrawn _ ih =>
    intro c hc
    rcases List.mem_cons.mp hc with rfl | hc
    · exact hdrawn.elim (hread.trusted c) (hread.offered c)
    · exact ih c hc

/-- A certificate above the leaf may be replaced by a trusted one with the same signed part. -/
theorem Grown.replace {s : Stretch} {i : Certificate} (h : Grown src leaf s) (hbelow : s.below ≠ [])
    (htrusted : i ∈ src.trusted) (hbody : i.body = s.top.body) : Grown src leaf ⟨i, s.below⟩ := by
  cases h with
  | leaf => exact absurd rfl hbelow
  | push hgrown _ hissues =>
    refine .push hgrown (.inl htrusted) ?_
    rw [Certificate.congr_body (issues · _) (fun _ _ _ _ _ => rfl) hbody]
    exact hissues

/-- Where a search ends well it has found a path of issuers with a trusted certificate on top, or
the leaf is the same as a trusted certificate and stands at the bottom of what was found. -/
theorem Found.ends (hread : AllRead src leaf) {s : Stretch} (h : Found src leaf s) :
    (Grown src leaf s ∧ s.top ∈ src.trusted ∧
      (isSelfSigned s.top = true ∨ src.partialEnough = true)) ∨
    ∃ i ∈ src.trusted, s.toList.getLast? = some i ∧ same leaf i = true ∧ i.body = leaf.body ∧
      (isSelfSigned leaf = true ∨ src.partialEnough = true) := by
  cases h with
  | anchored hgrown htrusted hissues hends =>
    exact .inl ⟨.push hgrown (.inl htrusted) hissues, htrusted, hends⟩
  | @replaced s i hgrown htrusted hsigned hsame =>
    have htop : s.top.IsRead := hgrown.isRead hread _ List.mem_cons_self
    have hbody := htop.body_eq_of_same (hread.trusted i htrusted) hsame
    by_cases hbelow : s.below = []
    · right
      have hleaf : s.top = leaf := by
        have hlast := hgrown.getLast?
        rw [Stretch.toList, hbelow] at hlast
        exact Option.some.inj hlast
      rw [hleaf] at hsigned hsame hbody
      refine ⟨i, htrusted, ?_, hsame, hbody.symm, .inl hsigned⟩
      rw [Stretch.toList, hbelow]
      rfl
    · left
      refine ⟨hgrown.replace hbelow htrusted hbody.symm, htrusted, .inl ?_⟩
      change isSelfSigned i = true
      rw [← Certificate.congr_body isSelfSigned (fun _ _ _ _ _ => rfl) hbody]
      exact hsigned
  | @settled s i hgrown htrusted hpartial hsame =>
    right
    have hleaf : s.leaf = leaf := by
      have hlast := hgrown.getLast?
      rw [Stretch.toList, List.getLast?_cons] at hlast
      exact Option.some.inj hlast
    rw [hleaf] at hsame
    have hbody := hread.leaf.body_eq_of_same (hread.trusted i htrusted) hsame
    refine ⟨i, htrusted, ?_, hsame, hbody.symm, .inr hpartial⟩
    unfold Stretch.withLeaf
    split
    · rfl
    · rw [Stretch.toList, ← List.cons_append, List.getLast?_append]
      rfl

end Sources

end PeerTrust.Path
