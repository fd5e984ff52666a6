import PeerTrust.Proofs.Asn1.Sequences
import PeerTrust.PublicKey

/-!
# Parameters of keys that are written

A SubjectPublicKeyInfo is written from an algorithm, its parameters and the octets of a key, and is
read as these. The parameters that have structure, a restriction to one signature scheme or a group
of numbers, are read as what they are written for: a field is left out only where it says what its
absence says.
-/

namespace PeerTrust.X509

open PeerTrust.Asn1

section Names

/-! ### Object identifiers of keys -/

/-- The algorithms of keys that have structure. -/
def structured : List ObjectId :=
  [oidRsa, oidRsaPss, oidCurvePoint, oidDsa, oidAgreement, oidSubgroupAgreement]

/-- The object identifiers that keys are written with, those of digests apart. -/
def keyNames : List ObjectId :=
  structured ++ [oidPrimeField, oidMaskGeneration]
    ++ Curve.named.map (·.1) ++ Curve.namedBinary.map (·.1)
    ++ [RawKey.x25519, .x448, .ed25519, .ed448].map RawKey.oid
    ++ (latticeSizes ++ encapsulationSizes).map (·.1)

theorem isObject_of_mem_keyNames {oid : ObjectId} (h : oid ∈ keyNames) : isObject oid = true := by
  have hall : keyNames.all isObject = true := by decide +kernel
  exact List.all_eq_true.mp hall oid h

theorem isObject_of_mem_structured {oid : ObjectId} (h : oid ∈ structured) :
    isObject oid = true :=
  isObject_of_mem_keyNames (by simp [keyNames, h])

end Names

section Algorithms

/-! ### Algorithms -/

variable {oid : ObjectId} {parameters : Option Element} {value : Option AnyValue}

/-- The octets of an element that may be absent. -/
def optionalRaw (e : Option Element) : Bytes :=
  (e.map Element.raw).getD []

/-- An algorithm with parameters that are written. -/
def algorithmItem (oid : ObjectId) (parameters : Option Element) : Element :=
  .sequence [writePrimitive tagObject oid, optionalRaw parameters]

theorem object?_object (hoid : isObject oid = true) : (Element.object oid).object? = some oid :=
  Element.object?_primitive hoid

/-- An algorithm is read with the value that its parameters are. -/
theorem Algorithm.ofElement?_algorithmItem (hoid : isObject oid = true)
    (hwritten : ∀ p ∈ parameters, p.IsWritten)
    (hvalue : parameters.map AnyValue.ofElement? = value.map some)
    (hfits : Fits (algorithmItem oid parameters).raw) :
    Algorithm.ofElement? (algorithmItem oid parameters) = some ⟨oid, value⟩ := by
  have hitems : (algorithmItem oid parameters).sequence?
      = some (.object oid :: parameters.toList) := by
    refine Element.sequence?_of_items ?_ ?_ hfits.contents_of_writeSequence
    · cases parameters <;> simp [optionalRaw]
    · simpa [Element.isWritten_object] using hwritten
  rw [Algorithm.ofElement?, hitems]
  cases parameters with
  | none =>
    obtain rfl : value = none := by simpa using hvalue.symm
    simp [object?_object hoid]
  | some p =>
    obtain ⟨v, rfl, hv⟩ : ∃ v, value = some v ∧ AnyValue.ofElement? p = some v := by
      cases value <;> simp_all
    simp [object?_object hoid, hv]

/-- A SubjectPublicKeyInfo that is written. -/
def infoItem (oid : ObjectId) (parameters : Option Element) (octets : Bytes) : Element :=
  .sequence [(algorithmItem oid parameters).raw, (Element.bits octets).raw]

theorem raw_infoItem (oid : ObjectId) (parameters : Option Element) (octets : Bytes) :
    (infoItem oid parameters octets).raw
      = SubjectKey.writeInfo oid (optionalRaw parameters) octets := by
  rw [infoItem, Element.raw_bits]
  rfl

/-- A SubjectPublicKeyInfo is read as the algorithm and the octets that it is written from. -/
theorem keyOf?_writeInfo (hoid : isObject oid = true)
    (hwritten : ∀ p ∈ parameters, p.IsWritten)
    (hvalue : parameters.map AnyValue.ofElement? = value.map some) {octets : Bytes}
    (hfits : Fits (SubjectKey.writeInfo oid (optionalRaw parameters) octets)) :
    PublicKey.keyOf? (SubjectKey.writeInfo oid (optionalRaw parameters) octets)
      = SubjectKey.ofInfo? ⟨⟨oid, value⟩, ⟨0, octets⟩⟩ := by
  rw [← raw_infoItem] at hfits ⊢
  have hitems : (infoItem oid parameters octets).sequence?
      = some [algorithmItem oid parameters, .bits octets] := by
    refine Element.sequence?_of_items (by simp) ?_ hfits.contents_of_writeSequence
    simp [algorithmItem, Element.isWritten_sequence, Element.isWritten_bits]
  have halgorithm := Algorithm.ofElement?_algorithmItem hoid hwritten hvalue
    (hfits.part_of_writeSequence List.mem_cons_self)
  have hinfo : KeyInfo.ofElement? (infoItem oid parameters octets)
      = some ⟨⟨oid, value⟩, ⟨0, octets⟩⟩ := by
    rw [KeyInfo.ofElement?, hitems]
    simp [halgorithm]
  rw [PublicKey.keyOf?, infoItem, Element.isWritten_sequence.read_self hfits]
  change (KeyInfo.ofElement? (infoItem oid parameters octets)).bind _ = _
  rw [hinfo, Option.bind_some]

/-- A sequence as parameters is kept octet for octet, and its element is found again. -/
theorem anyValue_sequence (parts : List Bytes) :
    AnyValue.ofElement? (Element.sequence parts) = some (.verbatim (writeSequence parts)) := rfl

theorem elementOf?_writeSequence {parts : List Bytes} (hfits : Fits (writeSequence parts)) :
    SubjectKey.elementOf? (writeSequence parts) = some (Element.sequence parts) := by
  have hread : Element.read (writeSequence parts) = some (Element.sequence parts, []) :=
    Element.isWritten_sequence.read_self hfits
  rw [SubjectKey.elementOf?, hread]
  rfl

end Algorithms

section Restrictions

/-! ### Restrictions to a signature scheme -/

namespace HashName

/-- A digest is named by its identifier. -/
theorem ofOid?_oid (h : HashName) : ofOid? h.oid = some h ∧ isObject h.oid = true := by
  have hall : ∀ h ∈ registry.map (·.2), ofOid? h.oid = some h ∧ isObject h.oid = true := by
    decide +kernel
  exact hall h (by cases h <;> simp [registry])

end HashName

/-- A digest in a restriction, as it is written. -/
def hashItem (h : HashName) : Element :=
  algorithmItem h.oid (some (.primitive tagNull []))

theorem isWritten_hashItem (h : HashName) : (hashItem h).IsWritten :=
  Element.isWritten_sequence

theorem raw_hashItem (h : HashName) : (hashItem h).raw = PssParameters.writeHash h := rfl

theorem Algorithm.ofElement?_hashItem {h : HashName} (hfits : Fits (hashItem h).raw) :
    Algorithm.ofElement? (hashItem h) = some ⟨h.oid, some (.universal tagNull [])⟩ := by
  refine Algorithm.ofElement?_algorithmItem h.ofOid?_oid.2 ?_ rfl hfits
  rintro p ⟨⟩
  exact Element.isWritten_primitive (by decide) (by decide) []

namespace PssParameters

/-- A field that may be left out. -/
def fieldItems (number : Nat) (leaveOut : Bool) (inner : Element) : List Element :=
  if leaveOut then [] else [.tagged number inner]

theorem field_eq (number : Nat) (leaveOut : Bool) (inner : Element) :
    field number leaveOut inner.raw = (fieldItems number leaveOut inner).flatMap Element.raw := by
  cases leaveOut <;> simp [field, fieldItems]

theorem isWritten_of_mem_fieldItems {number : Nat} (hnumber : number < 4) {leaveOut : Bool}
    {inner e : Element} (he : e ∈ fieldItems number leaveOut inner) : e.IsWritten := by
  cases leaveOut with
  | true => cases he
  | false =>
    rw [List.mem_singleton.mp he]
    exact Element.isWritten_tagged (Nat.lt_trans hnumber (by decide)) inner

/-- A field is taken from the front of the fields that are left, if it is there. -/
theorem takeContextual_fieldItems (number : Nat) (leaveOut : Bool) (inner : Element)
    {rest : List Element} (hrest : ∀ e ∈ rest, e.isContextual number = false) :
    takeContextual number (fieldItems number leaveOut inner ++ rest)
      = (if leaveOut then none else some (.tagged number inner), rest) := by
  cases leaveOut with
  | false => simp [takeContextual, fieldItems]
  | true =>
    cases rest with
    | nil => rfl
    | cons e rest =>
      have he := hrest e List.mem_cons_self
      simp [takeContextual, fieldItems, he]

/-- A field with another number is not the one that is looked for, and neither are those behind. -/
theorem isContextual_fieldItems_append {number other : Nat} (hne : number ≠ other)
    {leaveOut : Bool} {inner : Element} {rest : List Element}
    (hrest : ∀ e ∈ rest, e.isContextual other = false) :
    ∀ e ∈ fieldItems number leaveOut inner ++ rest, e.isContextual other = false := by
  intro e he
  rcases List.mem_append.mp he with he | he
  · cases leaveOut with
    | true => cases he
    | false =>
      rw [List.mem_singleton.mp he]
      simpa using hne
  · exact hrest e he

variable {q : PssParameters}

/-- The mask generation with its digest, as it is written. -/
def maskItem (h : HashName) : Element :=
  .sequence [writePrimitive tagObject oidMaskGeneration, (hashItem h).raw]

theorem isWritten_maskItem (h : HashName) : (maskItem h).IsWritten :=
  Element.isWritten_sequence

/-- The fields of a restriction, as they are written. -/
def items (q : PssParameters) : List Element :=
  fieldItems 0 (q.hash = .sha1) (hashItem q.hash)
    ++ (fieldItems 1 (q.maskHash = .sha1) (maskItem q.maskHash)
    ++ (fieldItems 2 (q.saltLength = 20) (.integer q.saltLength)
    ++ (fieldItems 3 (q.trailer = 1) (.integer q.trailer) ++ [])))

/-- The numbers of a restriction that can be read have 31 bits. -/
structure IsSmall (q : PssParameters) : Prop where
  saltLength : q.saltLength < 0x80000000
  trailer : q.trailer < 0x80000000

/-- The parts of a written restriction are its fields. -/
theorem exists_write_eq (q : PssParameters) :
    ∃ parts : List Bytes, q.write = writeSequence parts
      ∧ parts.flatten = q.items.flatMap Element.raw := by
  refine ⟨_, rfl, ?_⟩
  have hmask : writeSequence [writePrimitive tagObject oidMaskGeneration, writeHash q.maskHash]
      = (maskItem q.maskHash).raw := rfl
  rw [← raw_hashItem, hmask, ← Element.raw_integer_natCast, ← Element.raw_integer_natCast]
  simp only [field_eq, items, List.flatten_cons, List.flatten_nil, List.flatMap_append,
    List.flatMap_nil]

theorem isWritten_of_mem_items {e : Element} (he : e ∈ q.items) : e.IsWritten := by
  simp only [items, List.mem_append, List.not_mem_nil, or_false] at he
  rcases he with he | he | he | he <;>
    exact isWritten_of_mem_fieldItems (by decide) he

/-- The digest of a field is the one that the field is written for. -/
theorem hash?_fieldItems {number : Nat} {h : HashName} (hfits : h ≠ .sha1 → Fits (hashItem h).raw) :
    hash? (if decide (h = .sha1) then none else some (.tagged number (hashItem h))) = some h := by
  by_cases hsha : h = .sha1
  · simp [hsha, hash?]
  · have hraw := hfits hsha
    rw [if_neg (by simpa using hsha), hash?,
      Element.explicit?_tagged (isWritten_hashItem h) hraw]
    simp [Algorithm.ofElement?_hashItem hraw, h.ofOid?_oid.1]

theorem maskHash?_fieldItems {number : Nat} {h : HashName}
    (hfits : h ≠ .sha1 → Fits (maskItem h).raw) :
    maskHash? (if decide (h = .sha1) then none else some (.tagged number (maskItem h))) = some h := by
  by_cases hsha : h = .sha1
  · simp [hsha, maskHash?]
  · have hraw := hfits hsha
    have hitems : (maskItem h).sequence? = some [.object oidMaskGeneration, hashItem h] := by
      refine Element.sequence?_of_items (by simp) ?_ hraw.contents_of_writeSequence
      simp [isWritten_hashItem, Element.isWritten_object]
    have hinner : Fits (hashItem h).raw := hraw.part_of_writeSequence (by simp)
    have hobject : isObject oidMaskGeneration = true :=
      isObject_of_mem_keyNames (by simp [keyNames])
    rw [if_neg (by simpa using hsha), maskHash?,
      Element.explicit?_tagged (isWritten_maskItem h) hraw]
    simp [hitems, object?_object hobject, Algorithm.ofElement?_hashItem hinner, h.ofOid?_oid.1]

theorem number?_fieldItems {number absent n : Nat} (hsmall : n < 0x80000000)
    (hfits : n ≠ absent → Fits (Element.integer n).raw) :
    number? absent (if decide (n = absent) then none else some (.tagged number (.integer n)))
      = some n := by
  by_cases habsent : n = absent
  · simp [habsent, number?]
  · have hrange : 0 ≤ (n : Int) ∧ (n : Int) < 0x80000000 := by omega
    rw [if_neg (by simpa using habsent), number?,
      Element.explicit?_tagged (Element.isWritten_integer _) (hfits habsent)]
    change ((Element.integer n).integer?).bind _ = _
    rw [Element.integer?_integer, Option.bind_some, if_pos hrange, Int.toNat_natCast]

/-- The fields of a restriction are taken one after the other. -/
theorem ofElement?_of_items {e : Element} (h : e.sequence? = some q.items) :
    ofElement? e = do
      return ⟨← hash? (if decide (q.hash = .sha1) then none else some (.tagged 0 (hashItem q.hash))),
        ← maskHash? (if decide (q.maskHash = .sha1) then none
            else some (.tagged 1 (maskItem q.maskHash))),
        ← number? 20 (if decide (q.saltLength = 20) then none
            else some (.tagged 2 (.integer q.saltLength))),
        ← number? 1 (if decide (q.trailer = 1) then none
            else some (.tagged 3 (.integer q.trailer)))⟩ := by
  have hend (k : Nat) : ∀ e ∈ ([] : List Element), e.isContextual k = false := nofun
  have hbehind {k m : Nat} {leaveOut : Bool} {inner : Element} {rest : List Element}
      (hrest : ∀ e ∈ rest, e.isContextual k = false) (hne : m ≠ k) :=
    @isContextual_fieldItems_append m k hne leaveOut inner rest hrest
  rw [ofElement?, h]
  -- Each field is looked for in front of what is left, so those behind it must not pass for it.
  simp only [items, Option.bind_eq_bind, Option.bind_some]
  rw [takeContextual_fieldItems 0 _ _
    (hbehind (hbehind (hbehind (hend 0) (by decide)) (by decide)) (by decide))]
  dsimp only
  rw [takeContextual_fieldItems 1 _ _ (hbehind (hbehind (hend 1) (by decide)) (by decide))]
  dsimp only
  rw [takeContextual_fieldItems 2 _ _ (hbehind (hend 2) (by decide))]
  dsimp only
  rw [takeContextual_fieldItems 3 _ _ (hend 3)]
  rfl

/-- A restriction is read as the one that is written. -/
theorem ofElement?_write (hsmall : q.IsSmall) (hfits : Fits q.write) :
    (SubjectKey.elementOf? q.write).bind ofElement? = some q := by
  obtain ⟨parts, hwrite, hparts⟩ := q.exists_write_eq
  rw [hwrite] at hfits ⊢
  have hcontents := hfits.contents_of_writeSequence
  have hitems := Element.sequence?_of_items hparts (fun _ => isWritten_of_mem_items) hcontents
  have hfield (number : Nat) (inner : Element) (hmem : .tagged number inner ∈ q.items) :
      Fits inner.raw := Element.fits_body (Element.fits_raw (hparts ▸ hcontents) hmem)
  have hhash (hne : q.hash ≠ .sha1) := hfield 0 (hashItem q.hash) (by simp [items, fieldItems, hne])
  have hmask (hne : q.maskHash ≠ .sha1) :=
    hfield 1 (maskItem q.maskHash) (by simp [items, fieldItems, hne])
  have hsalt (hne : q.saltLength ≠ 20) :=
    hfield 2 (.integer q.saltLength) (by simp [items, fieldItems, hne])
  have htrailer (hne : q.trailer ≠ 1) :=
    hfield 3 (.integer q.trailer) (by simp [items, fieldItems, hne])
  rw [elementOf?_writeSequence hfits, Option.bind_some, ofElement?_of_items hitems,
    hash?_fieldItems hhash, maskHash?_fieldItems hmask,
    number?_fieldItems hsmall.saltLength hsalt, number?_fieldItems hsmall.trailer htrailer]
  rfl

/-- Numbers of a restriction that are read have 31 bits. -/
theorem number?_lt {absent n : Nat} (habsent : absent < 0x80000000) {e : Option Element}
    (h : number? absent e = some n) : n < 0x80000000 := by
  cases e with
  | none =>
    obtain rfl := Option.some.inj h
    exact habsent
  | some e =>
    obtain ⟨inner, -, h⟩ := Option.bind_eq_some_iff.mp h
    obtain ⟨m, -, h⟩ := Option.bind_eq_some_iff.mp h
    split at h
    · cases h
      omega
    · cases h

theorem isSmall_of_ofElement? {e : Element} (h : ofElement? e = some q) : q.IsSmall := by
  obtain ⟨items, -, h⟩ := Option.bind_eq_some_iff.mp h
  dsimp only at h
  split at h
  · obtain ⟨hash, -, h⟩ := Option.bind_eq_some_iff.mp h
    obtain ⟨mask, -, h⟩ := Option.bind_eq_some_iff.mp h
    obtain ⟨salt, hsalt, h⟩ := Option.bind_eq_some_iff.mp h
    obtain ⟨trailer, htrailer, h⟩ := Option.bind_eq_some_iff.mp h
    cases h
    exact ⟨number?_lt (by decide) hsalt, number?_lt (by decide) htrailer⟩
  · cases h

end PssParameters

end Restrictions

section Groups

/-! ### Numbers and groups of numbers -/

namespace SubjectKey

/-- The items of parameters that are a sequence. -/
theorem parameterItems?_writeSequence {parts : List Bytes} {items : List Element}
    (hparts : parts.flatten = items.flatMap Element.raw) (h : ∀ e ∈ items, e.IsWritten)
    (hfits : Fits (writeSequence parts)) :
    parameterItems? (some (.verbatim (writeSequence parts))) = some items := by
  rw [parameterItems?, elementOf?_writeSequence hfits]
  exact Element.sequence?_of_items hparts h hfits.contents_of_writeSequence

theorem integerAt?_writeInteger {n : Int} (hfits : Fits (writeInteger n)) :
    integerAt? (writeInteger n) = some n := by
  rw [← Element.raw_integer] at hfits ⊢
  rw [integerAt?, (Element.isWritten_integer n).read_self hfits]
  exact Element.integer?_integer n

theorem rsaNumbers?_write {n e : Nat} (hfits : Fits (writeRsaNumbers n e)) :
    rsaNumbers? (writeRsaNumbers n e) = some (n, e) := by
  have hread : Element.read (writeRsaNumbers n e)
      = some (Element.sequence [writeNatural n, writeNatural e], []) :=
    Element.isWritten_sequence.read_self hfits
  have hitems : (Element.sequence [writeNatural n, writeNatural e]).sequence?
      = some [.integer n, .integer e] := by
    refine Element.sequence?_of_items ?_ ?_ hfits.contents_of_writeSequence
    · simp [← Element.raw_integer_natCast]
    · simp [Element.isWritten_integer]
  rw [rsaNumbers?, hread]
  simp [hitems]

theorem group?_write {p q g : Nat}
    (hfits : Fits (writeSequence [writeNatural p, writeNatural q, writeNatural g])) :
    group? (some (.verbatim (writeSequence [writeNatural p, writeNatural q, writeNatural g])))
      = some (p, q, g) := by
  have hitems : parameterItems? (some (.verbatim
      (writeSequence [writeNatural p, writeNatural q, writeNatural g])))
        = some [.integer p, .integer q, .integer g] := by
    refine parameterItems?_writeSequence ?_ ?_ hfits
    · simp [← Element.raw_integer_natCast]
    · simp [Element.isWritten_integer]
  rw [group?, hitems]
  simp

/-- A length of secrets in 32 bits is read again. -/
theorem secretLength?_integer {n : Int} (hlow : -0x80000000 ≤ n) (hhigh : n < 0x80000000) :
    secretLength? (.integer n) = some n := by
  have hne : (Element.integer n).plainContents? ≠ some [] := by
    intro h
    have hnil : integerContents n = [] := Option.some.inj h
    have hinteger := (integerContents_spec n).1
    rw [hnil] at hinteger
    cases hinteger
  rw [secretLength?, if_neg fun h => hne h.2, Element.integer?_integer]
  exact if_pos ⟨hlow, hhigh⟩

theorem secretLength?_bounds {e : Element} {n : Int} (h : secretLength? e = some n) :
    -0x80000000 ≤ n ∧ n < 0x80000000 := by
  have hkept {m : Int}
      (hm : (if -0x80000000 ≤ m ∧ m < 0x80000000 then some m else none) = some n) :
      -0x80000000 ≤ n ∧ n < 0x80000000 := by
    split at hm
    · cases hm
      assumption
    · cases hm
  unfold secretLength? at h
  split at h
  · exact hkept (m := 0) h
  · obtain ⟨m, -, h⟩ := Option.bind_eq_some_iff.mp h
    exact hkept (m := m) h

/-- The parameters of a key for agreement. -/
def agreementParts (p g : Nat) (length : Int) : List Bytes :=
  [writeNatural p, writeNatural g, if length = 0 then [] else writeInteger length]

theorem agreementGroup?_write {p g : Nat} {length : Int} (hlow : -0x80000000 ≤ length)
    (hhigh : length < 0x80000000) (hfits : Fits (writeSequence (agreementParts p g length))) :
    agreementGroup? (some (.verbatim (writeSequence (agreementParts p g length))))
      = some (p, g, length) := by
  have hitems : parameterItems? (some (.verbatim (writeSequence (agreementParts p g length))))
      = some ([.integer p, .integer g] ++ if length = 0 then [] else [.integer length]) := by
    refine parameterItems?_writeSequence ?_ ?_ hfits
    · by_cases h : length = 0 <;> simp [agreementParts, h, ← Element.raw_integer_natCast]
    · by_cases h : length = 0 <;> simp [h, Element.isWritten_integer]
  rw [agreementGroup?, hitems]
  by_cases h : length = 0
  · simp [h]
  · simp [h, secretLength?_integer hlow hhigh]

end SubjectKey

namespace AgreementGroup

/-- What is said about how a group was made, as it is written. -/
def originItem (origin : Bytes × Nat) : Element :=
  .sequence [BitString.write ⟨0, origin.1⟩, writeNatural origin.2]

@[simp] theorem isUniversal_originItem (origin : Bytes × Nat) :
    (originItem origin).isUniversal tagSequence = true
      ∧ (originItem origin).isUniversal tagInteger = false :=
  ⟨rfl, rfl⟩

/-- What is said about how a group was made, if it can be read. -/
def HasOrigin (group : AgreementGroup) : Prop :=
  ∀ origin ∈ group.origin, origin.1 ≠ [] ∧ origin.2 < Nat.pow 2 31

/-- The items of a group, those that may be absent at the end. -/
def items (group : AgreementGroup) : List Element :=
  [.integer group.p, .integer group.g, .integer group.q]
    ++ (group.cofactor.toList.map fun n => .integer n) ++ group.origin.toList.map originItem

theorem groupOrigin?_originItem {origin : Bytes × Nat} (hne : origin.1 ≠ [])
    (hsmall : origin.2 < Nat.pow 2 31) (hfits : Fits (originItem origin).raw) :
    SubjectKey.groupOrigin? (originItem origin) = some (some origin) := by
  have hitems : (originItem origin).sequence? = some [.bits origin.1, .integer origin.2] := by
    refine Element.sequence?_of_items ?_ ?_ hfits.contents_of_writeSequence
    · simp [Element.raw_bits, ← Element.raw_integer_natCast]
    · simp [Element.isWritten_bits, Element.isWritten_integer]
  have hmod : origin.2 % Nat.pow 2 32 = origin.2 :=
    Nat.mod_eq_of_lt (Nat.lt_trans hsmall (by decide))
  have hlarge : ¬Nat.pow 2 64 ≤ origin.2 :=
    Nat.not_le.mpr (Nat.lt_trans hsmall (by decide))
  have hkept : ¬(origin.1.isEmpty = true ∨ Nat.pow 2 64 ≤ origin.2
      ∨ Nat.pow 2 31 ≤ origin.2) := by
    rw [List.isEmpty_iff]
    rintro (h | h | h)
    · exact hne h
    · exact hlarge h
    · exact absurd hsmall (Nat.not_lt.mpr h)
  rw [SubjectKey.groupOrigin?, hitems]
  simp only [Element.bitString?_bits, Element.unsigned?_integer, Option.bind_eq_bind,
    Option.bind_some, hmod, if_neg hkept]
  rfl

theorem subgroup?_write {group : AgreementGroup} (horigin : group.HasOrigin)
    (hfits : Fits group.write) :
    SubjectKey.subgroup? (some (.verbatim group.write)) = some group := by
  have hitems : SubjectKey.parameterItems? (some (.verbatim group.write)) = some group.items := by
    refine SubjectKey.parameterItems?_writeSequence ?_ ?_ hfits
    · cases hc : group.cofactor <;> cases ho : group.origin <;>
        simp [items, originItem, hc, ho, ← Element.raw_integer_natCast]
    · cases hc : group.cofactor <;> cases ho : group.origin <;>
        simp [items, originItem, hc, ho, Element.isWritten_integer, Element.isWritten_sequence]
  have hread (origin : Bytes × Nat) (ho : group.origin = some origin) :
      SubjectKey.groupOrigin? (originItem origin) = some (some origin) := by
    obtain ⟨hne, hsmall⟩ := horigin origin ho
    refine groupOrigin?_originItem hne hsmall (hfits.part_of_writeSequence ?_)
    simp [ho, originItem]
  obtain ⟨p, g, q, cofactor, origin⟩ := group
  rw [SubjectKey.subgroup?, hitems]
  cases origin with
  | none => cases cofactor <;> simp [items, takeUniversal, optional?]
  | some origin =>
    have horiginRead := hread origin rfl
    cases cofactor <;> simp [items, takeUniversal, optional?, horiginRead]

theorem origin_of_groupOrigin? {e : Element} {origin : Bytes × Nat}
    (h : SubjectKey.groupOrigin? e = some (some origin)) :
    origin.1 ≠ [] ∧ origin.2 < Nat.pow 2 31 := by
  unfold SubjectKey.groupOrigin? at h
  split at h
  · obtain ⟨seed, -, h⟩ := Option.bind_eq_some_iff.mp h
    obtain ⟨n, -, h⟩ := Option.bind_eq_some_iff.mp h
    split at h
    · cases h
    · rename_i hkept
      cases h
      obtain ⟨hne, hkept⟩ := not_or.mp hkept
      obtain ⟨-, hsmall⟩ := not_or.mp hkept
      exact ⟨fun hnil => hne (List.isEmpty_iff.mpr hnil), Nat.not_le.mp hsmall⟩
  · cases h

theorem hasOrigin_of_subgroup? {parameters : Option AnyValue} {group : AgreementGroup}
    (h : SubjectKey.subgroup? parameters = some group) : group.HasOrigin := by
  obtain ⟨items, -, h⟩ := Option.bind_eq_some_iff.mp h
  split at h
  · dsimp only at h
    split at h
    · obtain ⟨cofactor, -, h⟩ := Option.bind_eq_some_iff.mp h
      obtain ⟨origin, horigin, h⟩ := Option.bind_eq_some_iff.mp h
      obtain ⟨p, -, h⟩ := Option.bind_eq_some_iff.mp h
      obtain ⟨g, -, h⟩ := Option.bind_eq_some_iff.mp h
      obtain ⟨q, -, h⟩ := Option.bind_eq_some_iff.mp h
      cases h
      intro found hfound
      unfold optional? at horigin
      split at horigin
      · cases horigin
        cases hfound
      · obtain ⟨said, hsaid, rfl⟩ := Option.map_eq_some_iff.mp horigin
        cases said with
        | none => cases hfound
        | some said =>
          cases hfound
          exact origin_of_groupOrigin? hsaid
    · cases h
  · cases h

end AgreementGroup

end Groups

end PeerTrust.X509
