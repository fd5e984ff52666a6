import Mathlib.Data.List.Chain
import PeerTrust.Path.Validate

/-!
# What a checked path has passed

The checks of a certificate are stated by what they ask of it: the times that it names, the purposes
and uses of its key, and the ground on which it counts as one of an authority.

Validation goes over a path three times and ends at the first fault. A path without a fault has
passed every check at every certificate: its extensions at its distance from the leaf, its signature
under the certificate above it, and its times.
-/

namespace PeerTrust.Path

open PeerTrust.X509

section Certificates

/-! ### Checks of one certificate -/

variable {c : Certificate} {now : Moment}

/-- A certificate is valid between its two times, at the first and no more at the second. -/
structure IsValidAt (now : Moment) (c : Certificate) : Prop where
  begun : ∃ first, c.body.notBefore.moment? = some first ∧ first ≤ now
  notEnded : ∃ last, c.body.notAfter.moment? = some last ∧ now < last

theorem isCurrent_iff : isCurrent now c = true ↔ IsValidAt now c := by
  unfold isCurrent timeFault?
  cases hfirst : c.body.notBefore.moment? with
  | none => exact iff_of_false nofun fun ⟨⟨_, hsome, _⟩, _⟩ => nomatch hfirst.symm.trans hsome
  | some first =>
    by_cases hbegun : now < first
    · simp only [if_pos hbegun]
      refine iff_of_false nofun fun h => ?_
      obtain ⟨_, hsome, hle⟩ := h.begun
      cases hfirst.symm.trans hsome
      exact Nat.not_le_of_lt hbegun hle
    · simp only [if_neg hbegun]
      have hle : first ≤ now := Nat.le_of_not_lt hbegun
      cases hlast : c.body.notAfter.moment? with
      | none => exact iff_of_false nofun fun ⟨_, _, hsome, _⟩ => nomatch hlast.symm.trans hsome
      | some last =>
        by_cases hended : last ≤ now
        · simp only [if_pos hended]
          refine iff_of_false nofun fun h => ?_
          obtain ⟨_, hsome, hlt⟩ := h.notEnded
          cases hlast.symm.trans hsome
          exact Nat.not_le_of_lt hlt hended
        · simp only [if_neg hended]
          exact iff_of_true rfl ⟨⟨first, hfirst, hle⟩, last, hlast, Nat.lt_of_not_le hended⟩

/-- The use of a key, where it is limited, includes one of the given bits. -/
theorem usable_iff {bits : Nat} :
    usable c bits = true ↔ ∀ usage, c.keyUsage.value? = some usage → firstBits usage &&& bits ≠ 0 := by
  unfold usable
  cases c.keyUsage.value? <;> simp

/-- Where purposes of a key are stated, one of them is that of a server. -/
theorem allowsServer_iff :
    allowsServer c = true ↔ ∀ purposes, c.extendedKeyUsage.value? = some purposes →
      ∃ p ∈ serverPurposes, p ∈ purposes := by
  unfold allowsServer
  cases c.extendedKeyUsage.value? <;> simp

theorem hasLegacyType_iff {bits : Nat} :
    hasLegacyType c bits = true
      ↔ ∃ type, c.legacyType.value? = some type ∧ firstBits type &&& bits ≠ 0 := by
  unfold hasLegacyType
  cases c.legacyType.value? <;> simp

/-- What makes a ground the one on which a certificate counts as one of an authority. Where basic
constraints are stated no other ground counts, and a use of the key goes before a legacy type. -/
def Authority.Applies (c : Certificate) : Authority → Prop
  | marked => ∃ b, c.basicConstraints.value? = some b ∧ b.authority = true
  | ancientRoot => c.basicConstraints.value? = none ∧ c.body.version = 0 ∧ isSelfSigned c = true
  | byKeyUsage => c.basicConstraints.value? = none
      ∧ ¬(c.body.version = 0 ∧ isSelfSigned c = true) ∧ ∃ usage, c.keyUsage.value? = some usage
  | byLegacyType => c.basicConstraints.value? = none
      ∧ ¬(c.body.version = 0 ∧ isSelfSigned c = true) ∧ c.keyUsage.value? = none
      ∧ ∃ type, c.legacyType.value? = some type ∧ firstBits type &&& legacyAuthorities ≠ 0

/-- A certificate counts as one of an authority on a ground. -/
structure IsAuthority (c : Certificate) (ground : Authority) : Prop where
  sound : c.isSound = true
  signs : ∀ usage, c.keyUsage.value? = some usage → firstBits usage &&& signCertificates ≠ 0
  applies : ground.Applies c

theorem authority?_eq_some_iff {ground : Authority} :
    authority? c = some ground ↔ IsAuthority c ground := by
  have hguard : authority? c = some ground ↔ c.isSound = true ∧ usable c signCertificates = true
      ∧ ground.Applies c := by
    unfold authority?
    cases c.isSound with
    | false => simp
    | true =>
      cases usable c signCertificates with
      | false => simp
      | true =>
        simp only [Bool.not_true, Bool.or_self, Bool.false_eq_true, if_false, true_and]
        cases hbasic : c.basicConstraints.value? with
        | some b => cases hb : b.authority <;> cases ground <;> simp [Authority.Applies, hbasic, hb]
        | none =>
          by_cases hroot : c.body.version = 0 ∧ isSelfSigned c = true
          · cases ground <;> simp [Authority.Applies, hbasic, hroot]
          · cases husage : c.keyUsage.value? with
            | some usage => cases ground <;> simp [Authority.Applies, hbasic, hroot, husage]
            | none =>
              by_cases hlegacy : hasLegacyType c legacyAuthorities = true
              · have hstated := hasLegacyType_iff.mp hlegacy
                cases ground <;> simp [Authority.Applies, hbasic, hroot, husage, hlegacy, hstated]
              · have hstated := mt hasLegacyType_iff.mpr hlegacy
                cases ground <;> simp [Authority.Applies, hbasic, hroot, husage, hlegacy, hstated]
  rw [hguard, usable_iff]
  exact ⟨fun ⟨hsound, hsigns, happlies⟩ => ⟨hsound, hsigns, happlies⟩,
    fun h => ⟨h.sound, h.signs, h.applies⟩⟩

/-- The certificate on top of a path counts as one of an authority on any ground, those between it
and the leaf are marked. -/
theorem mayStandAbove_iff {isTop : Bool} :
    mayStandAbove isTop c = true
      ↔ ∃ ground, IsAuthority c ground ∧ (isTop = false → ground = .marked) := by
  simp only [← authority?_eq_some_iff]
  unfold mayStandAbove
  cases authority? c with
  | none => simp
  | some ground => cases isTop <;> simp

/-- What the purpose of a server asks of a certificate so many steps from the server's own. -/
structure IsForServer (depth : Nat) (c : Certificate) : Prop where
  purpose : ∀ purposes, c.extendedKeyUsage.value? = some purposes →
    ∃ p ∈ serverPurposes, p ∈ purposes
  /-- The server's own certificate has no other legacy type, and a key to sign with or to agree on
  keys by. -/
  leaf : depth = 0 →
    (∀ type, c.legacyType.value? = some type → firstBits type &&& legacyServer ≠ 0)
    ∧ ∀ usage, c.keyUsage.value? = some usage →
      firstBits usage &&& (signDigests ||| encipherKeys ||| agreeOnKeys) ≠ 0
  /-- One above it is one of an authority, by a legacy type only of an authority for servers. -/
  above : 0 < depth → ∃ ground, IsAuthority c ground
    ∧ (ground = .byLegacyType →
      ∃ type, c.legacyType.value? = some type ∧ firstBits type &&& legacyServerAuthority ≠ 0)

theorem suitsServer_iff :
    suitsServer c = true
      ↔ (∀ type, c.legacyType.value? = some type → firstBits type &&& legacyServer ≠ 0)
        ∧ ∀ usage, c.keyUsage.value? = some usage →
          firstBits usage &&& (signDigests ||| encipherKeys ||| agreeOnKeys) ≠ 0 := by
  rw [suitsServer, Bool.and_eq_true, usable_iff, Bool.or_eq_true, hasLegacyType_iff]
  cases c.legacyType.value? <;> simp

theorem suitsAbove_iff :
    suitsAbove c = true ↔ ∃ ground, IsAuthority c ground ∧ (ground = .byLegacyType →
      ∃ type, c.legacyType.value? = some type ∧ firstBits type &&& legacyServerAuthority ≠ 0) := by
  simp only [← authority?_eq_some_iff, ← hasLegacyType_iff]
  unfold suitsAbove
  cases authority? c with
  | none => simp
  | some ground => cases ground <;> simp

/-- A certificate suits the purpose when it is for a server, or is not sound. -/
theorem suits_iff {depth : Nat} :
    suits depth c = true ↔ (c.isSound = true → IsForServer depth c) := by
  have hparts : IsForServer depth c ↔
      allowsServer c = true ∧ (if depth = 0 then suitsServer c else suitsAbove c) = true := by
    rw [allowsServer_iff]
    by_cases hleaf : depth = 0
    · rw [if_pos hleaf, suitsServer_iff]
      exact ⟨fun h => ⟨h.purpose, h.leaf hleaf⟩,
        fun h => ⟨h.1, fun _ => h.2, fun habove => absurd hleaf (Nat.ne_of_gt habove)⟩⟩
    · rw [if_neg hleaf, suitsAbove_iff]
      exact ⟨fun h => ⟨h.purpose, h.above (Nat.pos_of_ne_zero hleaf)⟩,
        fun h => ⟨h.1, fun h => absurd h hleaf, fun _ => h.2⟩⟩
  rw [hparts, ← Bool.and_eq_true, suits]
  cases c.isSound <;> simp

end Certificates

/-- The extensions of a certificate are in order when none of the six faults is there. -/
theorem extensionFault?_eq_none_iff {length depth counted : Nat} {c : Certificate} :
    extensionFault? length depth counted c = none ↔
      c.hasUnknownCritical = false ∧ c.proxy.value?.isSome = false ∧
      (0 < depth → mayStandAbove (depth + 1 == length) c = true) ∧
      (1 < length → hasSpelledCurve c = false) ∧ suits depth c = true ∧
      (1 < depth → exceedsLength counted c = false) := by
  have hguard {p : Prop} [Decidable p] {cause : Cause} {more : Option Cause} :
      (if p then some cause else more) = none ↔ ¬p ∧ more = none := by
    split
    · rename_i hp
      simp [hp]
    · rename_i hp
      simp [hp]
  unfold extensionFault?
  rw [hguard, hguard, hguard, hguard, hguard, hguard]
  simp only [Bool.not_eq_true, Bool.not_eq_false, not_and, and_true]

/-- A path whose extensions are checked has none of the faults at any certificate. -/
theorem extensionFault?_of_checkExtensions {length depth counted : Nat} {path : List Certificate}
    (h : checkExtensions length depth counted path = .ok ()) {i : Nat} {c : Certificate}
    (hc : path[i]? = some c) :
    ∃ counted', extensionFault? length (depth + i) counted' c = none := by
  induction path generalizing depth counted i with
  | nil => cases hc
  | cons first rest ih =>
    rw [checkExtensions] at h
    split at h
    · cases h
    · rename_i hnone
      cases i with
      | zero =>
        rw [← Option.some.inj hc]
        exact ⟨counted, hnone⟩
      | succ i =>
        rw [List.getElem?_cons_succ] at hc
        obtain ⟨counted', hfault⟩ := ih h hc
        rw [Nat.add_assoc, Nat.add_comm 1 i] at hfault
        exact ⟨counted', hfault⟩

/-- A certificate passes the check of its link when its issuer, if it has one, signed it and it is
valid now. -/
theorem linkFault?_eq_none_iff {now : Moment} {issuer : Option Certificate} {c : Certificate} :
    linkFault? now issuer c = none ↔
      (∀ i ∈ issuer, isSignedBy c i = true) ∧ isCurrent now c = true := by
  cases issuer with
  | none => simp [linkFault?, isCurrent]
  | some i =>
    by_cases hsigned : isSignedBy c i = true
    · simp [linkFault?, isCurrent, hsigned]
    · simp [linkFault?, hsigned]

/-- On a path whose links are checked every certificate is signed by the one above it. -/
theorem isSignedBy_of_checkLinks {now : Moment} {issuer : Option Certificate}
    {path : List Certificate} (h : checkLinks now issuer path = .ok ()) :
    (issuer.toList ++ path).IsChain fun upper lower => isSignedBy lower upper = true := by
  induction path generalizing issuer with
  | nil => cases issuer <;> simp
  | cons c rest ih =>
    rw [checkLinks] at h
    split at h
    · cases h
    · rename_i hnone
      have hrest := ih h
      cases issuer with
      | none => exact hrest
      | some i =>
        have hsigned := (linkFault?_eq_none_iff.mp hnone).1 i rfl
        exact .cons_cons hsigned hrest

/-- On a path whose links are checked every certificate is valid now. -/
theorem isCurrent_of_checkLinks {now : Moment} {issuer : Option Certificate}
    {path : List Certificate} (h : checkLinks now issuer path = .ok ()) :
    ∀ c ∈ path, isCurrent now c = true := by
  induction path generalizing issuer with
  | nil => simp
  | cons first rest ih =>
    rw [checkLinks] at h
    split at h
    · cases h
    · rename_i hnone
      intro c hc
      rcases List.mem_cons.mp hc with rfl | hc
      · exact (linkFault?_eq_none_iff.mp hnone).2
      · exact ih h c hc

/-- What a checked path, top first, has passed. -/
structure Checked (now : Moment) (path : List Certificate) : Prop where
  /-- Every certificate but the leaf is one of an authority, all but the top one by a mark. -/
  authorities : ∀ i c, 0 < i → path.reverse[i]? = some c →
    ∃ ground, IsAuthority c ground ∧ (i + 1 ≠ path.length → ground = .marked)
  /-- Every certificate that is sound is for a server. -/
  suited : ∀ i c, path.reverse[i]? = some c → c.isSound = true → IsForServer i c
  signed : path.IsChain fun upper lower => isSignedBy lower upper = true
  current : ∀ c ∈ path, IsValidAt now c

/-- A path without a fault has passed the checks. -/
theorem checked_of_check {now : Moment} {path : List Certificate} (h : check now path = .ok ()) :
    Checked now path := by
  have hpasses : checkExtensions path.length 0 0 path.reverse = .ok () ∧
      checkLinks now none path = .ok () := by
    unfold check at h
    cases hextensions : checkExtensions path.length 0 0 path.reverse with
    | error fault =>
      rw [hextensions] at h
      cases h
    | ok _ =>
      cases hlinks : checkLinks now none path with
      | error fault =>
        rw [hextensions, hlinks] at h
        cases h
      | ok _ => exact ⟨rfl, rfl⟩
  obtain ⟨hextensions, hlinks⟩ := hpasses
  have hfaultless {i : Nat} {c : Certificate} (hc : path.reverse[i]? = some c) :
      (0 < i → mayStandAbove (i + 1 == path.length) c = true) ∧ suits i c = true := by
    obtain ⟨counted, hnone⟩ := extensionFault?_of_checkExtensions hextensions hc
    rw [Nat.zero_add] at hnone
    obtain ⟨-, -, habove, -, hsuits, -⟩ := extensionFault?_eq_none_iff.mp hnone
    exact ⟨habove, hsuits⟩
  constructor
  · intro i c hi hc
    obtain ⟨ground, hauthority, hmarked⟩ := mayStandAbove_iff.mp ((hfaultless hc).1 hi)
    exact ⟨ground, hauthority, fun hne => hmarked (beq_eq_false_iff_ne.mpr hne)⟩
  · intro i c hc
    exact suits_iff.mp (hfaultless hc).2
  · exact isSignedBy_of_checkLinks hlinks
  · intro c hc
    exact isCurrent_iff.mp (isCurrent_of_checkLinks hlinks c hc)

end PeerTrust.Path
