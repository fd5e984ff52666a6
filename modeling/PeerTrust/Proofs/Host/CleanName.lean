import PeerTrust.Proofs.Host.Depth
import PeerTrust.Proofs.ReadEach
import PeerTrust.Proofs.Specimen

/-!
# Names with a NUL and the hosts they cover

A text that may be compared with a host is valid UTF-8 without a NUL. Common names are held to
this. Alternative names are held to UTF-8 alone, so one with a NUL covers a host that holds the same
NUL; no other host is covered by reason of such a name. Common names are looked at whenever no
alternative names can be read, which includes a certificate that has them in an unusable form.
-/

namespace PeerTrust

namespace Utf8

/-- An octet that begins a longer character asks for a continuation octet next. -/
theorem le_low_of_lead {b : UInt8} {u : Unfinished} (h : lead b = .begins u) : 0x80 ≤ u.low := by
  have hchoice (p : Prop) [Decidable p] {x : UInt8} (hx : 0x80 ≤ x) :
      0x80 ≤ if p then x else 0x80 := by
    split
    · exact hx
    · exact UInt8.le_refl _
  unfold lead at h
  split at h
  · cases h
  · split at h
    · cases h
    · split at h
      · rw [← Lead.begins.inj h]
        exact UInt8.le_refl _
      · split at h
        · rw [← Lead.begins.inj h]
          exact hchoice _ (by decide)
        · split at h
          · rw [← Lead.begins.inj h]
            exact hchoice _ (by decide)
          · cases h

/-- The octet zero is the character NUL between characters, and spoils a character it stands in. -/
theorem nul_mem_units {state : Option Unfinished} (hstate : ∀ u ∈ state, 0x80 ≤ u.low)
    {bs : Bytes} (hnul : 0 ∈ bs) : none ∈ units state bs ∨ some '\x00' ∈ units state bs := by
  have hzero : lead 0 = .whole '\x00' := rfl
  -- the state carries that zero is below every continuation octet it allows
  have hbelow {u : Unfinished} (hlow : 0x80 ≤ u.low) : ¬u.low ≤ 0 := by
    intro hle
    have habsurd := UInt8.le_trans hlow hle
    revert habsurd
    decide
  fun_induction units state bs with
  | case1 => cases hnul
  | case2 => cases hnul
  | case3 b rest c hlead ih =>
    rcases List.mem_cons.mp hnul with rfl | hrest
    · rw [hzero] at hlead
      cases hlead
      exact .inr List.mem_cons_self
    · exact (ih (by simp) hrest).imp (List.mem_cons_of_mem _) (List.mem_cons_of_mem _)
  | case4 b rest u hlead ih =>
    have hlow : ∀ v ∈ some u, 0x80 ≤ v.low := by
      rintro v ⟨⟩
      exact le_low_of_lead hlead
    rcases List.mem_cons.mp hnul with rfl | hrest
    · rw [hzero] at hlead
      cases hlead
    · exact ih hlow hrest
  | case5 => exact .inl List.mem_cons_self
  | case6 u b rest hrange value hlast ih =>
    rcases List.mem_cons.mp hnul with rfl | hrest
    · exact absurd hrange.1 (hbelow (hstate u rfl))
    · exact (ih (by simp) hrest).imp (List.mem_cons_of_mem _) (List.mem_cons_of_mem _)
  | case7 u b rest hrange value hmore ih =>
    rcases List.mem_cons.mp hnul with rfl | hrest
    · exact absurd hrange.1 (hbelow (hstate u rfl))
    · refine ih ?_ hrest
      intro v hv
      rw [← Option.some.inj hv]
      exact UInt8.le_refl _
  | case8 => exact .inl List.mem_cons_self

/-- A text that is read from octets with a NUL holds the NUL. -/
theorem nul_mem_of_decode? {bs : Bytes} {text : List Char} (hread : decode? bs = some text)
    (hnul : 0 ∈ bs) : '\x00' ∈ text := by
  have hnone : ∀ u ∈ (none : Option Unfinished), 0x80 ≤ u.low := by simp
  rcases nul_mem_units hnone hnul with hbad | hgood
  · obtain ⟨c, -, hc⟩ := exists_item_of_mapM hread hbad
    cases hc
  · obtain ⟨c, hmem, hc⟩ := exists_item_of_mapM hread hgood
    rwa [← Option.some.inj hc] at hmem

end Utf8

namespace Path

open PeerTrust.HostRule PeerTrust.X509

/-- What stands in the normal form of a name, asterisks and dots apart, stands in that of every host
the name covers. -/
theorem mem_normalHost_of_nameCovers {name : List Char} {host : String} {c : Char}
    (hstar : c ≠ '*') (hdot : c ≠ '.') (hmem : c ∈ normalHost name)
    (hcovers : nameCovers name host = true) : c ∈ normalHost host.toList := by
  obtain ⟨-, rule, hspelled, hrule⟩ := nameCovers_iff.mp hcovers
  generalize normalHost name = form at hspelled hmem
  cases hspelled with
  | exact hne hplain =>
    rwa [eq_of_beq hrule]
  | oneLabel hplain =>
    obtain ⟨label, -, -, hhost⟩ := covers_oneLabel_iff.mp hrule
    rw [hhost]
    simpa [hstar, hdot] using Or.inr hmem
  | anyDepth hplain =>
    rcases covers_anyDepth_iff.mp hrule with hhost | ⟨labels, -, hhost⟩
    · rw [hhost]
      simpa [hstar, hdot] using hmem
    · rw [hhost]
      simpa [hstar, hdot] using Or.inr hmem

/-- A name with a NUL covers only hosts that hold one. -/
theorem nul_mem_of_nameCovers {name : List Char} {host : String} (hnul : '\x00' ∈ name)
    (hcovers : nameCovers name host = true) : '\x00' ∈ host.toList := by
  have hlower : Char.toLower '\x00' = '\x00' := by decide
  have hform : '\x00' ∈ normalHost name := by
    have hkept := toLower_mem_normalHost (by decide) (by decide) hnul
    rwa [hlower] at hkept
  obtain ⟨c, hmem, hc⟩ := exists_mem_of_mem_normalHost
    (mem_normalHost_of_nameCovers (by decide) (by decide) hform hcovers)
  rwa [Text.eq_of_toLower_eq (by decide) hc] at hmem

/-- A clean text among the names that are to be compared with a host covers it: an alternative host
name, or a common name where there are no alternative names at all. -/
def NamesCleanly (c : Certificate) (host : String) : Prop :=
  (∃ names text name, c.altNames = .stated names ∧ GeneralName.dns text ∈ names ∧
    cleanText? text = some name ∧ nameCovers name host = true) ∨
  (c.altNames = .absent ∧ ∃ a ∈ commonNames c, ∃ name,
    cleanText? a.value = some name ∧ nameCovers name host = true)

/-- An alternative host name with a NUL covers a host. -/
def NamesByNul (c : Certificate) (host : String) : Prop :=
  ∃ names text name, c.altNames = .stated names ∧ GeneralName.dns text ∈ names ∧ 0 ∈ text ∧
    Utf8.decode? text = some name ∧ nameCovers name host = true

/-- A common name covers a host although there are alternative names, which cannot be used. -/
def NamesDespiteAltNames (c : Certificate) (host : String) : Prop :=
  c.altNames = .unusable ∧ ∃ a ∈ commonNames c, ∃ name,
    cleanText? a.value = some name ∧ nameCovers name host = true

/-- A clean text is one that can be read and has no NUL. -/
theorem cleanText?_eq_some_iff {octets : Bytes} {text : List Char} :
    cleanText? octets = some text ↔ 0 ∉ octets ∧ Utf8.decode? octets = some text := by
  unfold cleanText?
  split
  · rename_i hnul
    simp [List.contains_iff_mem.mp hnul]
  · rename_i hnul
    rw [List.contains_iff_mem] at hnul
    simp [hnul]

/-- An alternative name covers a host when it is a host name that can be read and does. -/
theorem altNameCovers_iff {host : String} {n : GeneralName} :
    altNameCovers host n = true ↔ ∃ text name, n = .dns text ∧ Utf8.decode? text = some name ∧
      nameCovers name host = true := by
  unfold altNameCovers
  cases n with
  | dns text => cases hread : Utf8.decode? text <;> simp [hread]
  | _ => simp

/-- A common name covers a host when it is a clean text that does. -/
theorem commonNameCovers_iff {host : String} {a : Attribute} :
    commonNameCovers host a = true ↔ ∃ name, cleanText? a.value = some name ∧
      nameCovers name host = true := by
  unfold commonNameCovers
  cases hread : cleanText? a.value <;> simp

/-- A certificate is one for a host that is no address when a clean name covers it, an alternative
name with a NUL does, or a common name does in spite of alternative names. -/
theorem matchesHost_iff_names {c : Certificate} {host : String}
    (hhost : Address.ofText? host.toList = none) :
    matchesHost c host = true ↔
      NamesCleanly c host ∨ NamesByNul c host ∨ NamesDespiteAltNames c host := by
  unfold matchesHost NamesCleanly NamesByNul NamesDespiteAltNames
  rw [hhost]
  cases halt : c.altNames with
  | absent =>
    simp [Statement.value?, commonNameCovers_iff]
  | unusable =>
    simp [Statement.value?, commonNameCovers_iff]
  | stated names =>
    simp only [Statement.value?, List.any_eq_true, altNameCovers_iff, cleanText?_eq_some_iff]
    constructor
    · rintro ⟨n, hn, text, name, rfl, hread, hcovers⟩
      by_cases hnul : 0 ∈ text
      · exact .inr (.inl ⟨names, text, name, rfl, hn, hnul, hread, hcovers⟩)
      · exact .inl (.inl ⟨names, text, name, rfl, hn, ⟨hnul, hread⟩, hcovers⟩)
    · rintro ((⟨_, text, name, ⟨⟩, hn, ⟨-, hread⟩, hcovers⟩ | ⟨⟨⟩, -⟩) |
        ⟨_, text, name, ⟨⟩, hn, -, hread, hcovers⟩ | ⟨⟨⟩, -⟩)
      · exact ⟨_, hn, text, name, rfl, hread, hcovers⟩
      · exact ⟨_, hn, text, name, rfl, hread, hcovers⟩

/-- The grounds on which a certificate is one for a host that is no address. The ground is a clean
name exactly when any other ground, an alternative name with a NUL or unusable alternative names,
comes beside a clean one. An alternative name that is no clean text counts only by a NUL that the
host holds as well, and a common name that is none never counts. -/
theorem matchesHost_grounds (c : Certificate) (host : String)
    (hhost : Address.ofText? host.toList = none) :
    (matchesHost c host = true ↔
      NamesCleanly c host ∨ NamesByNul c host ∨ NamesDespiteAltNames c host) ∧
    ((matchesHost c host = true → NamesCleanly c host) ↔
      (NamesByNul c host ∨ NamesDespiteAltNames c host → NamesCleanly c host)) ∧
    (∀ text, cleanText? text = none → altNameCovers host (.dns text) = true →
      0 ∈ text ∧ '\x00' ∈ host.toList) ∧
    (∀ a : Attribute, cleanText? a.value = none → commonNameCovers host a = false) := by
  have hgrounds := matchesHost_iff_names (c := c) hhost
  refine ⟨hgrounds, ?_, ?_, ?_⟩
  · rw [hgrounds]
    constructor
    · intro hclaim hother
      exact hclaim (.inr hother)
    · rintro hclaim (hclean | hother)
      · exact hclean
      · exact hclaim hother
  · intro text hunclean hcovers
    obtain ⟨_, name, ⟨⟩, hread, hname⟩ := altNameCovers_iff.mp hcovers
    have hnul : 0 ∈ text := by
      by_contra hnul
      rw [cleanText?_eq_some_iff.mpr ⟨hnul, hread⟩] at hunclean
      cases hunclean
    exact ⟨hnul, nul_mem_of_nameCovers (Utf8.nul_mem_of_decode? hread hnul) hname⟩
  · intro a hunclean
    rw [← Bool.not_eq_true, commonNameCovers_iff]
    rintro ⟨name, hclean, -⟩
    rw [hunclean] at hclean
    cases hclean

/-- A certificate for `a.example.com` is one for that host by its clean alternative name. -/
theorem matchesHost_clean :
    ∃ c, Certificate.ofDer? (Specimen.certificate [Utf8.encodeString "a.example.com"]) = some c ∧
      Address.ofText? "a.example.com".toList = none ∧ matchesHost c "a.example.com" = true ∧
      NamesCleanly c "a.example.com" := by
  have hread : ∃ c ∈ Certificate.ofDer? (Specimen.certificate [Utf8.encodeString "a.example.com"]),
      matchesHost c "a.example.com" = true ∧
        c.altNames = .stated [.dns (Utf8.encodeString "a.example.com")] := by
    decide +kernel
  obtain ⟨c, hc, hmatches, halt⟩ := hread
  have hhost : Address.ofText? "a.example.com".toList = none := by decide
  refine ⟨c, hc, hhost, hmatches, (matchesHost_grounds c _ hhost).2.1.mpr ?_ hmatches⟩
  rintro (⟨names, text, name, hnames, htext, hnul, -⟩ | ⟨hunusable, -⟩)
  · rw [halt] at hnames
    cases hnames
    obtain rfl : text = Utf8.encodeString "a.example.com" := by simpa using htext
    exact absurd hnul (by decide)
  · rw [halt] at hunusable
    cases hunusable

/-- A certificate whose only alternative name holds a NUL is one for the host that is spelled with
the same NUL, although no clean name covers it. -/
theorem matchesHost_nul :
    ∃ c, Certificate.ofDer?
        (Specimen.certificate [Utf8.encodeString "a\x00.example.com"]) = some c ∧
      matchesHost c "a\x00.example.com" = true ∧ ¬NamesCleanly c "a\x00.example.com" := by
  have hread : ∃ c ∈ Certificate.ofDer?
      (Specimen.certificate [Utf8.encodeString "a\x00.example.com"]),
      matchesHost c "a\x00.example.com" = true ∧
        c.altNames = .stated [.dns (Utf8.encodeString "a\x00.example.com")] := by
    decide +kernel
  obtain ⟨c, hc, hmatches, halt⟩ := hread
  refine ⟨c, hc, hmatches, ?_⟩
  rintro (⟨names, text, name, hnames, htext, hclean, -⟩ | ⟨habsent, -⟩)
  · rw [halt] at hnames
    cases hnames
    obtain rfl : text = Utf8.encodeString "a\x00.example.com" := by simpa using htext
    have hnone : cleanText? (Utf8.encodeString "a\x00.example.com") = none := by decide
    rw [hnone] at hclean
    cases hclean
  · rw [halt] at habsent
    cases habsent

end Path

end PeerTrust
