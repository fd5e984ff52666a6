import PeerTrust.Proofs.Host.AddressText
import PeerTrust.Proofs.Host.CleanName

/-!
# Hosts that are addresses

A host that is spelled as an address is matched by the octets of the address alone. Whether it is
one is asked of the host as it stands, while names are compared in the normal form, so a host with
blanks around an address or dots behind it goes by the names of a certificate. For all other
spellings of an address no name has a say, and all of them get one answer.
-/

namespace PeerTrust

namespace Utf8

/-- ASCII texts are read from the octets they are written as. -/
theorem decode?_encode_of_ascii {text : List Char} (hascii : ∀ c ∈ text, c.toNat < 0x80) :
    decode? (encode text) = some text := by
  induction text with
  | nil => rfl
  | cons c text ih =>
    obtain ⟨hc, hrest⟩ := List.forall_mem_cons.mp hascii
    have hoctet : (UInt8.ofNat c.toNat).toNat = c.toNat := by
      rw [UInt8.toNat_ofNat', Nat.mod_eq_of_lt (by omega)]
    have hencoded : encode (c :: text) = UInt8.ofNat c.toNat :: encode text := by
      have hone : String.utf8EncodeChar c = [UInt8.ofNat c.toNat] := by
        simp [String.utf8EncodeChar, Nat.le_of_lt_succ hc]
      rw [encode, List.flatMap_cons, hone]
      rfl
    have hlead : lead (UInt8.ofNat c.toNat) = .whole c := by
      have hsmall : UInt8.ofNat c.toNat < 0x80 := by
        rw [UInt8.lt_iff_toNat_lt, hoctet]
        exact hc
      rw [lead, if_pos hsmall, hoctet, Char.ofNat_toNat]
    rw [hencoded, decode?, units, hlead]
    exact mapM_cons_eq_some.mpr ⟨c, text, rfl, ih hrest, rfl⟩

end Utf8

namespace Path

open PeerTrust.HostRule PeerTrust.X509

/-- A certificate binds an address: the octets of the address are among its alternative names. -/
def BindsAddress (c : Certificate) (a : Address) : Prop :=
  ∃ names, c.altNames = .stated names ∧ GeneralName.address a.octets ∈ names

/-- A certificate that says nothing but a common name. -/
def namedOnly (text : List Char) : Certificate :=
  { body :=
      { raw := [], version := 2, serial := 1, algorithm := ⟨[], none⟩, issuer := ⟨[], [], []⟩
        notBefore := ⟨false, []⟩, notAfter := ⟨false, []⟩
        subject := ⟨[], [[⟨oidCommonName, Asn1.tagUtf8, Utf8.encode text⟩]], []⟩
        keyInfo := ⟨⟨[], none⟩, ⟨0, []⟩⟩, extensions := [] }
    algorithm := ⟨[], none⟩
    signature := ⟨0, []⟩ }

/-- The octets of an address decide about a host that is spelled as one. -/
theorem matchesHost_iff_bindsAddress {c : Certificate} {host : String} {a : Address}
    (hhost : Address.ofText? host.toList = some a) :
    matchesHost c host = true ↔ BindsAddress c a := by
  unfold matchesHost BindsAddress
  rw [hhost]
  cases halt : c.altNames with
  | absent => simp [Statement.value?]
  | unusable => simp [Statement.value?]
  | stated names =>
    have hname (n : GeneralName) : altNameIs a n = true ↔ n = .address a.octets := by
      cases n <;> simp [altNameIs]
    simp [Statement.value?, hname]

/-- A name without asterisks covers the hosts that have its normal form. -/
theorem nameCovers_iff_of_exact {name : List Char} {host : String} (hne : normalHost name ≠ [])
    (hstar : '*' ∉ name) :
    nameCovers name host = true ↔ normalHost host.toList = normalHost name := by
  have hform : '*' ∉ normalHost name := by
    intro hmem
    obtain ⟨c, hc, hlower⟩ := exists_mem_of_mem_normalHost hmem
    rw [Text.eq_of_toLower_eq (by decide) hlower] at hc
    exact hstar hc
  rw [nameCovers_iff]
  constructor
  · rintro ⟨-, rule, hspelled, hcovers⟩
    generalize normalHost name = form at hspelled hform
    cases hspelled with
    | exact => exact eq_of_beq hcovers
    | oneLabel => simp at hform
    | anyDepth => simp at hform
  · intro hhost
    refine ⟨?_, .exact (normalHost name), .exact hne hform, beq_iff_eq.mpr hhost⟩
    rintro rest rfl
    simp at hstar

/-- A certificate whose only name is an address, by its common name, is one for the hosts that have
the address for their normal form but do not spell one as they stand. -/
theorem matchesHost_namedOnly {form : List Char} {a : Address} {host : String}
    (hform : Address.ofText? form = some a) (hlower : Text.lowerAscii form = form)
    (hhost : Address.ofText? host.toList = none) :
    matchesHost (namedOnly form) host = true ↔ normalHost host.toList = form := by
  obtain ⟨hne, hplain⟩ := Address.isPlain_of_ofText? hform
  have hclean : cleanText? (Utf8.encode form) = some form := by
    have hread : Utf8.decode? (Utf8.encode form) = some form := by
      refine Utf8.decode?_encode_of_ascii ?_
      intro c hc
      have hhigh : c.toNat ≤ 102 := (hplain c hc).2
      omega
    refine cleanText?_eq_some_iff.mpr ⟨?_, hread⟩
    intro hnul
    exact absurd (hplain _ (Utf8.nul_mem_of_decode? hread hnul)) (by decide)
  have hnormal : normalHost form = form := by
    rw [normalHost, Address.isBare_of_ofText? hform, hlower]
  have hstar : '*' ∉ form := by
    intro hmem
    exact absurd (hplain _ hmem) (by decide)
  have hnames : commonNames (namedOnly form) =
      [⟨oidCommonName, Asn1.tagUtf8, Utf8.encode form⟩] := by
    simp [commonNames, namedOnly, Name.attributes]
  have hnone : (namedOnly form).altNames.value? = none := rfl
  simp only [matchesHost, hnone, hhost, hnames, List.any_cons, List.any_nil, Bool.or_false,
    commonNameCovers, hclean]
  rw [nameCovers_iff_of_exact (by rwa [hnormal]) hstar, hnormal]

/-- The certificate whose only name is an address binds no address. -/
theorem not_bindsAddress_namedOnly (form : List Char) (a : Address) :
    ¬BindsAddress (namedOnly form) a := by
  rintro ⟨names, hstated, -⟩
  cases hstated

/-- A host that spells no address as it stands is matched by reason of its normal form. -/
theorem matchesHost_congr {host other : String} (hhost : Address.ofText? host.toList = none)
    (hother : Address.ofText? other.toList = none)
    (hform : normalHost host.toList = normalHost other.toList) (c : Certificate) :
    matchesHost c host = matchesHost c other := by
  have hcovers (name : List Char) : nameCovers name host = nameCovers name other := by
    simp only [nameCovers, HostPattern.covers, hform]
  have halt : altNameCovers host = altNameCovers other := by
    funext n
    simp only [altNameCovers, hcovers]
  have hcommon : commonNameCovers host = commonNameCovers other := by
    funext n
    simp only [commonNameCovers, hcovers]
  rw [matchesHost, matchesHost, hhost, hother, halt, hcommon]

/-- Whether a host that has an address for its normal form is matched by the octets of the address
alone depends on its spelling: it is for every certificate exactly when the host has no blanks
around it and no dots at its end. All such spellings of an address get the same answer from every
certificate; any two others do exactly when their normal forms are equal, and one of each kind does
not. -/
theorem matchesHost_address {host : String} {a : Address}
    (hform : Address.ofText? (normalHost host.toList) = some a) :
    (IsBare host.toList → ∀ c, matchesHost c host = true ↔ BindsAddress c a) ∧
    ((∀ c, matchesHost c host = true → BindsAddress c a) ↔ IsBare host.toList) ∧
    ∀ other : String, Address.ofText? (normalHost other.toList) = some a →
      ((∀ c, matchesHost c host = matchesHost c other) ↔
        IsBare host.toList ∧ IsBare other.toList ∨
          ¬IsBare host.toList ∧ ¬IsBare other.toList ∧
            normalHost host.toList = normalHost other.toList) := by
  have hnone {text : List Char} (hbare : ¬IsBare text) : Address.ofText? text = none := by
    rw [Option.eq_none_iff_forall_not_mem]
    intro b hspelled
    exact hbare (Address.isBare_of_ofText? hspelled)
  have hbinds {host : String} (hform : Address.ofText? (normalHost host.toList) = some a)
      (hbare : IsBare host.toList) (c : Certificate) :
      matchesHost c host = true ↔ BindsAddress c a :=
    matchesHost_iff_bindsAddress ((Address.ofText?_iff_isBare hform).mpr hbare)
  -- a host that is not bare goes by its normal form, also where that is no address bound
  have hnamed {host : String} (hform : Address.ofText? (normalHost host.toList) = some a)
      (hbare : ¬IsBare host.toList) :
      matchesHost (namedOnly (normalHost host.toList)) host = true :=
    (matchesHost_namedOnly hform (lowerAscii_normalHost _) (hnone hbare)).mpr rfl
  refine ⟨hbinds hform, ⟨?_, fun hbare c => (hbinds hform hbare c).mp⟩, ?_⟩
  · intro hclaim
    by_contra hbare
    exact not_bindsAddress_namedOnly _ a (hclaim _ (hnamed hform hbare))
  · intro other hother
    -- one bare host and one that is not are told apart by the certificate named for the latter
    have hmixed {host other : String} (hform : Address.ofText? (normalHost host.toList) = some a)
        (hother : Address.ofText? (normalHost other.toList) = some a) (hbare : IsBare host.toList)
        (hbare' : ¬IsBare other.toList) : ∃ c, matchesHost c host ≠ matchesHost c other := by
      refine ⟨namedOnly (normalHost other.toList), ?_⟩
      intro hsame
      rw [hnamed hother hbare', hbinds hform hbare] at hsame
      exact not_bindsAddress_namedOnly _ a hsame
    constructor
    · intro hsame
      by_cases hbare : IsBare host.toList <;> by_cases hbare' : IsBare other.toList
      · exact .inl ⟨hbare, hbare'⟩
      · obtain ⟨c, hc⟩ := hmixed hform hother hbare hbare'
        exact absurd (hsame c) hc
      · obtain ⟨c, hc⟩ := hmixed hother hform hbare' hbare
        exact absurd (hsame c).symm hc
      · refine .inr ⟨hbare, hbare', ?_⟩
        have hmatches := hnamed hform hbare
        rw [hsame, matchesHost_namedOnly hform (lowerAscii_normalHost _) (hnone hbare')] at hmatches
        exact hmatches.symm
    · rintro (⟨hbare, hbare'⟩ | ⟨hbare, hbare', hforms⟩) c
      · rw [Bool.eq_iff_iff, hbinds hform hbare, hbinds hother hbare']
      · exact matchesHost_congr (hnone hbare) (hnone hbare') hforms c

/-- Two spellings of the loopback address, neither of which is canonical, get the same answer from
every certificate: whether it binds the sixteen octets. -/
theorem matchesHost_loopback :
    Address.ofText? (normalHost "0:0::1".toList) = some (.v6 (List.replicate 15 0 ++ [1])) ∧
      (∀ c, matchesHost c "0:0::1" = true ↔
        BindsAddress c (.v6 (List.replicate 15 0 ++ [1]))) ∧
      ∀ c, matchesHost c "0:0::1" = matchesHost c "::0001" := by
  have hform : Address.ofText? (normalHost "0:0::1".toList) =
      some (.v6 (List.replicate 15 0 ++ [1])) := by decide
  obtain ⟨hbinds, -, hsame⟩ := matchesHost_address hform
  have hbare : IsBare "0:0::1".toList := by decide
  exact ⟨hform, hbinds hbare, (hsame "::0001" (by decide)).mpr (.inl ⟨hbare, by decide⟩)⟩

/-- A certificate for the host name `127.0.0.1`, which binds no address, is one for the host that is
spelled with a dot behind the address, though not for the address itself. -/
theorem matchesHost_dot_behind_address :
    ∃ c, Certificate.ofDer? (Specimen.certificate [Utf8.encodeString "127.0.0.1"]) = some c ∧
      Address.ofText? (normalHost "127.0.0.1.".toList) = some (.v4 [127, 0, 0, 1]) ∧
      matchesHost c "127.0.0.1." = true ∧ ¬BindsAddress c (.v4 [127, 0, 0, 1]) ∧
      matchesHost c "127.0.0.1" = false := by
  have hread : ∃ c ∈ Certificate.ofDer? (Specimen.certificate [Utf8.encodeString "127.0.0.1"]),
      matchesHost c "127.0.0.1." = true ∧ matchesHost c "127.0.0.1" = false ∧
        c.altNames = .stated [.dns (Utf8.encodeString "127.0.0.1")] := by
    decide +kernel
  obtain ⟨c, hc, hmatches, hfails, halt⟩ := hread
  refine ⟨c, hc, by decide, hmatches, ?_, hfails⟩
  rintro ⟨names, hnames, hmem⟩
  rw [halt] at hnames
  cases hnames
  simp at hmem

end Path

end PeerTrust
