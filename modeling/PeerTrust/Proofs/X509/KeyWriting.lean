import PeerTrust.Proofs.X509.SpelledCurve

/-!
# Keys that are written and read again

Whatever a key was read from, what is kept of it can be written down in one way only, and is read
as the same key. What a reader guarantees of a key, apart from its kind, is little: its curve is
one that has a name or is settled, its numbers are short enough for their fields, and its octets
have the size of their kind.
-/

namespace PeerTrust.X509

open PeerTrust.Asn1

section Names

/-! ### Object identifiers of keys -/

/-- The algorithms of keys that have structure are told apart. -/
theorem structured_ne :
    oidRsaPss ≠ oidRsa
    ∧ (oidCurvePoint ≠ oidRsa ∧ oidCurvePoint ≠ oidRsaPss)
    ∧ (oidDsa ≠ oidRsa ∧ oidDsa ≠ oidRsaPss ∧ oidDsa ≠ oidCurvePoint)
    ∧ (oidAgreement ≠ oidRsa ∧ oidAgreement ≠ oidRsaPss ∧ oidAgreement ≠ oidCurvePoint
      ∧ oidAgreement ≠ oidDsa)
    ∧ (oidSubgroupAgreement ≠ oidRsa ∧ oidSubgroupAgreement ≠ oidRsaPss
      ∧ oidSubgroupAgreement ≠ oidCurvePoint ∧ oidSubgroupAgreement ≠ oidDsa
      ∧ oidSubgroupAgreement ≠ oidAgreement) := by
  decide +kernel

/-- What is found under a name stands under this name. -/
theorem mem_of_find?_name {β : Type} {entries : List (ObjectId × β)} {oid : ObjectId} {value : β}
    (h : (entries.find? (·.1 == oid)).map (·.2) = some value) : oid ∈ entries.map (·.1) := by
  obtain ⟨entry, hentry, rfl⟩ := Option.map_eq_some_iff.mp h
  have hname := List.find?_some hentry
  rw [beq_iff_eq] at hname
  subst hname
  exact List.mem_map_of_mem (List.mem_of_find?_eq_some hentry)

theorem isObject_of_named? {oid : ObjectId} {c : Curve.Weierstrass}
    (h : Curve.named? oid = some c) : isObject oid = true := by
  have hname := mem_of_find?_name h
  exact isObject_of_mem_keyNames (by simp only [keyNames, List.mem_append, hname, true_or, or_true])

theorem isObject_of_namedBinary? {oid : ObjectId} {c : Curve.Binary}
    (h : Curve.namedBinary? oid = some c) : isObject oid = true := by
  have hname := mem_of_find?_name h
  exact isObject_of_mem_keyNames (by simp only [keyNames, List.mem_append, hname, true_or, or_true])

/-- A kind of key without structure has the name that names it, an object identifier. -/
theorem RawKey.oid_of_ofOid? {oid : ObjectId} {kind : RawKey} (h : ofOid? oid = some kind) :
    kind.oid = oid ∧ isObject oid = true := by
  have hnamed {entries : List (ObjectId × Nat)} {found : ObjectId} {size : Nat}
      (hentries : entries ⊆ latticeSizes ++ encapsulationSizes)
      (hfound : entries.find? (·.1 == oid) = some (found, size)) :
      found = oid ∧ oid ∈ keyNames := by
    have hname : found = oid := by simpa using List.find?_some hfound
    have hlisted : oid ∈ (latticeSizes ++ encapsulationSizes).map (·.1) :=
      List.mem_map.mpr ⟨_, hentries (List.mem_of_find?_eq_some hfound), hname⟩
    exact ⟨hname, List.mem_append_right _ hlisted⟩
  have hplain (plain : RawKey) (hmem : plain ∈ [RawKey.x25519, .x448, .ed25519, .ed448])
      (hoid : oid = plain.oid) : plain.oid = oid ∧ oid ∈ keyNames :=
    ⟨hoid.symm, List.mem_append_left _
      (List.mem_append_right _ (List.mem_map.mpr ⟨plain, hmem, hoid.symm⟩))⟩
  suffices hboth : kind.oid = oid ∧ oid ∈ keyNames from
    ⟨hboth.1, isObject_of_mem_keyNames hboth.2⟩
  unfold ofOid? at h
  split_ifs at h with h25519 h448 hed25519 hed448
  · cases h
    exact hplain x25519 (by simp) h25519
  · cases h
    exact hplain x448 (by simp) h448
  · cases h
    exact hplain ed25519 (by simp) hed25519
  · cases h
    exact hplain ed448 (by simp) hed448
  split at h
  · rename_i hfound
    cases h
    exact hnamed (List.subset_append_left _ _) hfound
  · rename_i hfound
    cases h
    exact hnamed (List.subset_append_right _ _) hfound
  · cases h

end Names

section Writing

/-! ### Keys of each kind -/

/-- A curve that parameters can name or spell out. -/
def KeyCurve.IsKept : KeyCurve → Prop
  | byName oid c => Curve.named? oid = some c
  | spelled c seed form => SubjectKey.IsSettled c seed form
  | overBits oid c => Curve.named? oid = none ∧ Curve.namedBinary? oid = some c

namespace SubjectKey

variable {key : SubjectKey} {oid : ObjectId} {parameters octets der : Bytes}

/-- What a reader guarantees of a key. -/
def IsKept : SubjectKey → Prop
  | rsa .. => True
  | rsaPss restriction .. => ∀ q ∈ restriction, q.IsSmall
  | curvePoint curve octets => curve.IsKept ∧ curve.accepts octets = true
  | dsa .. => True
  | agreement _ _ length _ => -0x80000000 ≤ length ∧ length < 0x80000000
  | subgroupAgreement group _ => group.HasOrigin
  | raw kind octets =>
    kind.oid ∉ structured ∧ RawKey.ofOid? kind.oid = some kind ∧ kind.fits octets = true

/-- The parts of a key that is written. -/
theorem fits_of_writeInfo (h : Fits (writeInfo oid parameters octets)) :
    Fits parameters ∧ Fits octets := by
  have halgorithm : Fits (writeSequence [writePrimitive tagObject oid, parameters]) :=
    h.part_of_writeSequence List.mem_cons_self
  have hbits : Fits (BitString.write ⟨0, octets⟩) := h.part_of_writeSequence (by simp)
  rw [← Element.raw_bits] at hbits
  refine ⟨halgorithm.part_of_writeSequence (by simp), (Element.fits_body hbits).of_length_le ?_⟩
  exact Nat.le_succ _

/-- A key whose parameters are one element. -/
theorem keyOf?_writeInfo_element (hoid : isObject oid = true) {e : Element} {value : AnyValue}
    (he : e.IsWritten) (hvalue : AnyValue.ofElement? e = some value)
    (hfits : Fits (writeInfo oid e.raw octets)) :
    PublicKey.keyOf? (writeInfo oid e.raw octets)
      = ofInfo? ⟨⟨oid, some value⟩, ⟨0, octets⟩⟩ := by
  have hwritten : ∀ p ∈ some e, p.IsWritten := by
    rintro _ ⟨⟩
    exact he
  have hread : (some e).map AnyValue.ofElement? = (some value).map some := by
    rw [Option.map_some, hvalue]
    rfl
  exact keyOf?_writeInfo hoid hwritten hread hfits

/-- A key whose parameters are a sequence. -/
theorem keyOf?_writeInfo_sequence (hoid : isObject oid = true) {parts : List Bytes}
    (hfits : Fits (writeInfo oid (writeSequence parts) octets)) :
    PublicKey.keyOf? (writeInfo oid (writeSequence parts) octets)
      = ofInfo? ⟨⟨oid, some (.verbatim (writeSequence parts))⟩, ⟨0, octets⟩⟩ := by
  rw [← Element.raw_sequence] at hfits ⊢
  exact keyOf?_writeInfo_element hoid Element.isWritten_sequence (anyValue_sequence parts) hfits

/-- A key whose parameters are a name. -/
theorem keyOf?_writeInfo_object (hoid : isObject oid = true) {name : ObjectId}
    (hname : isObject name = true)
    (hfits : Fits (writeInfo oid (writePrimitive tagObject name) octets)) :
    PublicKey.keyOf? (writeInfo oid (writePrimitive tagObject name) octets)
      = ofInfo? ⟨⟨oid, some (.universal tagObject name)⟩, ⟨0, octets⟩⟩ := by
  have hvalue : AnyValue.ofElement? (.object name) = some (.universal tagObject name) := by
    change (Element.object name).object?.map (AnyValue.universal tagObject) = _
    rw [object?_object hname]
    rfl
  rw [← Element.raw_object] at hfits ⊢
  exact keyOf?_writeInfo_element hoid (Element.isWritten_object name) hvalue hfits

/-- A key without parameters. -/
theorem keyOf?_writeInfo_nil (hoid : isObject oid = true) (hfits : Fits (writeInfo oid [] octets)) :
    PublicKey.keyOf? (writeInfo oid [] octets) = ofInfo? ⟨⟨oid, none⟩, ⟨0, octets⟩⟩ :=
  @keyOf?_writeInfo oid none none hoid nofun rfl octets hfits

theorem keyOf?_rsa {n e : Nat} (hwrite : (rsa n e).write? = some der) (hfits : Fits der) :
    PublicKey.keyOf? der = some (rsa n e) := by
  obtain rfl := Option.some.inj hwrite
  have hread := keyOf?_writeInfo_element (isObject_of_mem_structured (by simp [structured]))
    (Element.isWritten_primitive (by decide) (by decide) []) rfl hfits
  rw [Element.raw_primitive] at hread
  rw [hread, ofInfo?, if_pos rfl, rsaNumbers?_write (fits_of_writeInfo hfits).2]
  rfl

theorem keyOf?_rsaPss {restriction : Option PssParameters} {n e : Nat}
    (hkept : ∀ q ∈ restriction, q.IsSmall) (hwrite : (rsaPss restriction n e).write? = some der)
    (hfits : Fits der) : PublicKey.keyOf? der = some (rsaPss restriction n e) := by
  have hoid : isObject oidRsaPss = true := isObject_of_mem_structured (by simp [structured])
  have hne : oidRsaPss ≠ oidRsa := structured_ne.1
  have hread (parameters : Option AnyValue) (hrestriction : restriction? parameters = some restriction)
      (hnumbers : Fits (writeRsaNumbers n e)) :
      ofInfo? ⟨⟨oidRsaPss, parameters⟩, ⟨0, writeRsaNumbers n e⟩⟩
        = some (rsaPss restriction n e) := by
    rw [ofInfo?, if_neg hne, if_pos rfl, rsaNumbers?_write hnumbers, hrestriction]
    rfl
  cases restriction with
  | none =>
    obtain rfl := Option.some.inj hwrite
    rw [keyOf?_writeInfo_nil hoid hfits]
    exact hread none rfl (fits_of_writeInfo hfits).2
  | some q =>
    rw [write?] at hwrite
    split at hwrite
    · obtain rfl := Option.some.inj hwrite
      obtain ⟨hparameters, hnumbers⟩ := fits_of_writeInfo hfits
      rw [PssParameters.write] at hfits ⊢
      rw [keyOf?_writeInfo_sequence hoid hfits]
      refine hread _ ?_ hnumbers
      rw [restriction?]
      exact congrArg (Option.map some) (PssParameters.ofElement?_write (hkept q rfl) hparameters)
    · cases hwrite

theorem keyOf?_curvePoint {curve : KeyCurve} (hkept : curve.IsKept)
    (haccepts : curve.accepts octets = true)
    (hwrite : (curvePoint curve octets).write? = some der) (hfits : Fits der) :
    PublicKey.keyOf? der = some (curvePoint curve octets) := by
  have hoid : isObject oidCurvePoint = true := isObject_of_mem_structured (by simp [structured])
  have hne := structured_ne.2.1
  have hread (parameters : Option AnyValue) (hcurve : keyCurve? parameters = some curve) :
      ofInfo? ⟨⟨oidCurvePoint, parameters⟩, ⟨0, octets⟩⟩ = some (curvePoint curve octets) := by
    rw [ofInfo?, if_neg hne.1, if_neg hne.2, if_pos rfl, hcurve]
    exact if_pos haccepts
  simp only [write?] at hwrite
  split at hwrite
  · cases hwrite
  cases curve with
  | byName name c =>
    obtain rfl := Option.some.inj hwrite
    rw [keyOf?_writeInfo_object hoid (isObject_of_named? hkept) hfits]
    refine hread _ ?_
    rw [keyCurve?, if_neg (by simp), show Curve.named? name = some c from hkept]
  | overBits name c =>
    obtain rfl := Option.some.inj hwrite
    rw [keyOf?_writeInfo_object hoid (isObject_of_namedBinary? hkept.2) hfits]
    refine hread _ ?_
    rw [keyCurve?, if_neg (by simp), hkept.1, hkept.2]
    rfl
  | spelled c seed form =>
    obtain rfl := Option.some.inj hwrite
    obtain ⟨hparameters, -⟩ := fits_of_writeInfo hfits
    have hcurve := spelledCurve?_writeCurve hkept hparameters
    rw [writeCurve] at hfits hcurve ⊢
    rw [keyOf?_writeInfo_sequence hoid hfits]
    exact hread _ hcurve

theorem keyOf?_dsa {p q g : Nat} {value : Int} (hwrite : (dsa p q g value).write? = some der)
    (hfits : Fits der) : PublicKey.keyOf? der = some (dsa p q g value) := by
  obtain rfl := Option.some.inj hwrite
  obtain ⟨hparameters, hvalue⟩ := fits_of_writeInfo hfits
  have hne := structured_ne.2.2.1
  rw [keyOf?_writeInfo_sequence (isObject_of_mem_structured (by simp [structured])) hfits, ofInfo?,
    if_neg hne.1, if_neg hne.2.1, if_neg hne.2.2, if_pos rfl, group?_write hparameters,
    integerAt?_writeInteger hvalue]
  rfl

theorem keyOf?_agreement {p g : Nat} {length value : Int} (hlow : -0x80000000 ≤ length)
    (hhigh : length < 0x80000000) (hwrite : (agreement p g length value).write? = some der)
    (hfits : Fits der) : PublicKey.keyOf? der = some (agreement p g length value) := by
  obtain rfl := Option.some.inj hwrite
  obtain ⟨hparameters, hvalue⟩ := fits_of_writeInfo hfits
  have hne := structured_ne.2.2.2.1
  have hgroup := agreementGroup?_write hlow hhigh hparameters
  rw [agreementParts] at hgroup
  rw [keyOf?_writeInfo_sequence (isObject_of_mem_structured (by simp [structured])) hfits, ofInfo?,
    if_neg hne.1, if_neg hne.2.1, if_neg hne.2.2.1, if_neg hne.2.2.2, if_pos rfl, hgroup,
    integerAt?_writeInteger hvalue]
  rfl

theorem keyOf?_subgroupAgreement {group : AgreementGroup} {value : Int} (horigin : group.HasOrigin)
    (hwrite : (subgroupAgreement group value).write? = some der) (hfits : Fits der) :
    PublicKey.keyOf? der = some (subgroupAgreement group value) := by
  obtain rfl := Option.some.inj hwrite
  obtain ⟨hparameters, hvalue⟩ := fits_of_writeInfo hfits
  have hne := structured_ne.2.2.2.2
  have hgroup := AgreementGroup.subgroup?_write horigin hparameters
  rw [AgreementGroup.write] at hfits hgroup ⊢
  rw [keyOf?_writeInfo_sequence (isObject_of_mem_structured (by simp [structured])) hfits, ofInfo?,
    if_neg hne.1, if_neg hne.2.1, if_neg hne.2.2.1, if_neg hne.2.2.2.1, if_neg hne.2.2.2.2,
    if_pos rfl, hgroup, integerAt?_writeInteger hvalue]
  rfl

theorem keyOf?_raw {kind : RawKey} (hplain : kind.oid ∉ structured)
    (hkind : RawKey.ofOid? kind.oid = some kind) (hfit : kind.fits octets = true)
    (hwrite : (raw kind octets).write? = some der) (hfits : Fits der) :
    PublicKey.keyOf? der = some (raw kind octets) := by
  obtain rfl := Option.some.inj hwrite
  simp only [structured, List.mem_cons, List.not_mem_nil, or_false, not_or] at hplain
  -- The kinds with structure are tried first, and none of them has the name.
  obtain ⟨hrsa, hpss, hpoint, hdsa, hagreement, hsubgroup⟩ := hplain
  rw [keyOf?_writeInfo_nil (RawKey.oid_of_ofOid? hkind).2 hfits, ofInfo?, if_neg hrsa, if_neg hpss,
    if_neg hpoint, if_neg hdsa, if_neg hagreement, if_neg hsubgroup, hkind]
  exact if_pos ⟨rfl, hfit⟩

/-- A key is read as it is written. -/
theorem IsKept.keyOf?_write (h : key.IsKept) (hwrite : key.write? = some der) (hfits : Fits der) :
    PublicKey.keyOf? der = some key := by
  cases key with
  | rsa n e => exact keyOf?_rsa hwrite hfits
  | rsaPss restriction n e => exact keyOf?_rsaPss h hwrite hfits
  | curvePoint curve octets => exact keyOf?_curvePoint h.1 h.2 hwrite hfits
  | dsa p q g value => exact keyOf?_dsa hwrite hfits
  | agreement p g length value => exact keyOf?_agreement h.1 h.2 hwrite hfits
  | subgroupAgreement group value => exact keyOf?_subgroupAgreement h hwrite hfits
  | raw kind octets => exact keyOf?_raw h.1 h.2.1 h.2.2 hwrite hfits

end SubjectKey

end Writing

section Reading

/-! ### What readers guarantee -/

namespace SubjectKey

variable {key : SubjectKey} {parameters : Option AnyValue}

theorem isKept_of_keyCurve? {curve : KeyCurve} (h : keyCurve? parameters = some curve) :
    curve.IsKept := by
  unfold keyCurve? at h
  split at h
  · split_ifs at h with hobject
    split at h
    · rename_i c hnamed
      obtain rfl := Option.some.inj h
      exact hnamed
    · rename_i hunnamed
      obtain ⟨c, hbinary, rfl⟩ := Option.map_eq_some_iff.mp h
      exact ⟨hunnamed, hbinary⟩
  · obtain ⟨e, -, h⟩ := Option.bind_eq_some_iff.mp h
    obtain ⟨c, seed, form, rfl, hsettled⟩ := exists_isSettled_of_spelledCurve? h
    exact hsettled
  · cases h

theorem isSmall_of_restriction? {restriction : Option PssParameters}
    (h : restriction? parameters = some restriction) : ∀ q ∈ restriction, q.IsSmall := by
  rintro q rfl
  unfold restriction? at h
  split at h
  · cases h
  · obtain ⟨_, hq, ⟨⟩⟩ := Option.map_eq_some_iff.mp h
    obtain ⟨e, -, he⟩ := Option.bind_eq_some_iff.mp hq
    exact PssParameters.isSmall_of_ofElement? he
  · cases h

theorem length_of_agreementGroup? {p g : Nat} {length : Int}
    (h : agreementGroup? parameters = some (p, g, length)) :
    -0x80000000 ≤ length ∧ length < 0x80000000 := by
  obtain ⟨items, -, h⟩ := Option.bind_eq_some_iff.mp h
  split at h
  · obtain ⟨p', -, h⟩ := Option.bind_eq_some_iff.mp h
    obtain ⟨g', -, h⟩ := Option.bind_eq_some_iff.mp h
    cases h
    decide
  · obtain ⟨p', -, h⟩ := Option.bind_eq_some_iff.mp h
    obtain ⟨g', -, h⟩ := Option.bind_eq_some_iff.mp h
    obtain ⟨n, hn, h⟩ := Option.bind_eq_some_iff.mp h
    cases h
    exact secretLength?_bounds hn
  · cases h

/-- Every key that is read has what a reader guarantees. -/
theorem isKept_of_ofInfo? {info : KeyInfo} (h : ofInfo? info = some key) : key.IsKept := by
  unfold ofInfo? at h
  dsimp only at h
  split_ifs at h with hrsa hpss hpoint hdsa hagreement hsubgroup
  · obtain ⟨⟨n, e⟩, -, rfl⟩ := Option.map_eq_some_iff.mp h
    trivial
  · obtain ⟨⟨n, e⟩, -, h⟩ := Option.bind_eq_some_iff.mp h
    obtain ⟨restriction, hrestriction, h⟩ := Option.bind_eq_some_iff.mp h
    cases h
    exact isSmall_of_restriction? hrestriction
  · obtain ⟨curve, hcurve, h⟩ := Option.bind_eq_some_iff.mp h
    split_ifs at h with haccepts
    cases h
    exact ⟨isKept_of_keyCurve? hcurve, haccepts⟩
  · obtain ⟨⟨p, q, g⟩, -, h⟩ := Option.bind_eq_some_iff.mp h
    obtain ⟨value, -, h⟩ := Option.bind_eq_some_iff.mp h
    cases h
    trivial
  · obtain ⟨⟨p, g, length⟩, hgroup, h⟩ := Option.bind_eq_some_iff.mp h
    obtain ⟨value, -, h⟩ := Option.bind_eq_some_iff.mp h
    cases h
    exact length_of_agreementGroup? hgroup
  · obtain ⟨group, hgroup, h⟩ := Option.bind_eq_some_iff.mp h
    obtain ⟨value, -, h⟩ := Option.bind_eq_some_iff.mp h
    cases h
    exact AgreementGroup.hasOrigin_of_subgroup? hgroup
  · split at h
    · rename_i kind hkind
      split_ifs at h with hfits
      cases h
      have hname := (RawKey.oid_of_ofOid? hkind).1
      refine ⟨?_, hname ▸ hkind, hfits.2⟩
      simp [structured, hname, hrsa, hpss, hpoint, hdsa, hagreement, hsubgroup]
    · cases h

end SubjectKey

end Reading

end PeerTrust.X509
