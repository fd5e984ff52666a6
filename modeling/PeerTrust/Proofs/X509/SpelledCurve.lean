import PeerTrust.Proofs.X509.KeyParameters

/-!
# Curves that are spelled out and read again

A curve that is spelled out is kept in a settled form: with its name's seed if it has a name, and
with a cofactor wherever one follows from field and order. What is written from this form is read
as the same form. The base point is written as the octets that it was read from, or in full for a
curve with a name; that the base points of all named curves lie on them is checked here.
-/

namespace PeerTrust

open PeerTrust.Asn1

namespace Curve.Weierstrass

variable {c : Weierstrass} {octets : Bytes} {x y : Nat}

/-- One coordinate with the parity of the other is written as it was given. -/
theorem writePoint_short {form : UInt8} {xs : Bytes} (hform : form = 2 ∨ form = 3)
    (hx : xs.length = c.fieldSize) (hparity : y % 2 = form.toNat % 2) :
    c.writePoint form (.affine (Bytes.toNat xs) y) = form :: xs := by
  rw [writePoint, if_pos hform, Bytes.ofNat_toNat_of_length hx]
  rcases hform with rfl | rfl <;> simp [hparity]

/-- Both coordinates are written as they were given, with the parity if it was. -/
theorem writePoint_long {form : UInt8} {xs ys : Bytes} (hform : form = 4 ∨ form = 6 ∨ form = 7)
    (hx : xs.length = c.fieldSize) (hy : ys.length = c.fieldSize)
    (hparity : form = 4 ∨ Bytes.toNat ys % 2 = form.toNat % 2) :
    c.writePoint form (.affine (Bytes.toNat xs) (Bytes.toNat ys)) = form :: (xs ++ ys) := by
  have hlong : ¬(form = 2 ∨ form = 3) := by
    rcases hform with rfl | rfl | rfl <;> decide
  rw [writePoint, if_neg hlong, Bytes.ofNat_toNat_of_length hx, Bytes.ofNat_toNat_of_length hy]
  rcases hform with rfl | rfl | rfl
  · simp
  · simp [hparity.resolve_left (by decide)]
  · simp [hparity.resolve_left (by decide)]

/-- A point in one of the forms that give it, or both of its coordinates, is written again as it was
given. -/
theorem writePoint_of_point? (h : c.point? octets = some (.affine x y)) :
    c.writePoint (octets.headD X509.SubjectKey.fullForm) (.affine x y) = octets := by
  cases octets with
  | nil => cases h
  | cons form rest =>
    rw [List.headD_cons]
    unfold point? at h
    dsimp only at h
    split_ifs at h with _ _ hshort hx _ hlong hsize hholds
    · cases h
    · obtain ⟨root, -, h⟩ := Option.bind_eq_some_iff.mp h
      -- Only the parity of the other coordinate is written, not which root it is.
      generalize (if root % 2 = form.toNat % 2 then root else Modular.sub c.p 0 root) = y' at h
      split_ifs at h with hparity
      cases h
      exact writePoint_short hshort hx hparity
    · cases h
      have htake : (rest.take c.fieldSize).length = c.fieldSize := by
        rw [List.length_take]
        omega
      have hdrop : (rest.drop c.fieldSize).length = c.fieldSize := by
        rw [List.length_drop]
        omega
      rw [writePoint_long hlong htake hdrop hholds.2, List.take_append_drop]

/-- A number of the field has room in as many octets as the field takes. -/
theorem toNat_ofNat_fieldSize {n : Nat} (h : n < c.p) :
    Bytes.toNat (Bytes.ofNat c.fieldSize n) = n := by
  rw [Bytes.toNat_ofNat, Nat.mod_eq_of_lt]
  exact Nat.lt_trans h (Bytes.lt_pow_sizeOf c.p)

/-- Coordinates on the curve that are written in full are read again. -/
theorem point?_writePoint (h : c.holds x y = true) :
    c.point? (c.writePoint X509.SubjectKey.fullForm (.affine x y)) = some (.affine x y) := by
  have hbounds : x < c.p ∧ y < c.p := by
    simp only [holds, Bool.and_eq_true, decide_eq_true_eq] at h
    exact h.1
  have hlength : (Bytes.ofNat c.fieldSize x ++ Bytes.ofNat c.fieldSize y).length
      = 2 * c.fieldSize := by
    rw [List.length_append, Bytes.length_ofNat, Bytes.length_ofNat]
    omega
  have htake : (Bytes.ofNat c.fieldSize x ++ Bytes.ofNat c.fieldSize y).take c.fieldSize
      = Bytes.ofNat c.fieldSize x := List.take_left' (Bytes.length_ofNat _ _)
  have hdrop : (Bytes.ofNat c.fieldSize x ++ Bytes.ofNat c.fieldSize y).drop c.fieldSize
      = Bytes.ofNat c.fieldSize y := List.drop_left' (Bytes.length_ofNat _ _)
  change c.point? (4 :: (Bytes.ofNat c.fieldSize x ++ Bytes.ofNat c.fieldSize y)) = _
  simp [point?, hlength, htake, hdrop, toNat_ofNat_fieldSize hbounds.1,
    toNat_ofNat_fieldSize hbounds.2, h]

end Curve.Weierstrass

namespace Curve

/-- The base points of named curves lie on them. -/
theorem holds_base_of_nameOf? {c : Weierstrass} {oid : ObjectId} (h : nameOf? c = some oid) :
    c.holds c.baseX c.baseY = true := by
  have hall : ∀ entry ∈ named, entry.2.holds entry.2.baseX entry.2.baseY = true := by
    decide +kernel
  obtain ⟨entry, hentry, -⟩ := Option.map_eq_some_iff.mp h
  have hsame := List.find?_some hentry
  rw [← eq_of_beq hsame]
  exact hall entry (List.mem_of_find?_eq_some hentry)

theorem seed?_ne_nil (oid : ObjectId) : seed? oid ≠ some [] := by
  intro h
  obtain ⟨entry, -, hseed⟩ := Option.map_eq_some_iff.mp h
  have hlength := congrArg List.length hseed
  rw [Bytes.length_ofNat] at hlength
  cases hlength

end Curve

namespace X509

namespace SubjectKey

/-- The cofactor behind the order, which may be absent. -/
def cofactor? : List Element → Option Int
  | [] => some 0
  | [h] => h.integer?
  | _ => none

/-- The curve with given numbers and base point. -/
def curveOf? (p : Nat) (a b : Bytes) (seed : Option Bytes) (n cofactor : Int) (base : Element) :
    Option KeyCurve :=
  let bare : Curve.Weierstrass :=
    ⟨p, Bytes.toNat a % p, Bytes.toNat b % p, 0, 0, n.toNat, cofactor.toNat⟩
  if p % 2 = 0 ∨ p < 5 ∨ longestPrime < bitLength p ∨ n ≤ 0
      ∨ bitLength p + 1 < bitLength n.toNat ∨ cofactor < 0 ∨ seed.any (·.isEmpty) then
    none
  else base.octetString?.bind fun octets =>
    match bare.point? octets with
    | some (.affine x y) =>
      some (spelledAs { bare with baseX := x, baseY := y } seed (octets.headD fullForm))
    | _ => none

/-- A curve is read part by part. -/
theorem spelledCurve?_of_items {e version field coefficients base order : Element}
    {rest : List Element}
    (h : e.sequence? = some (version :: field :: coefficients :: base :: order :: rest)) :
    spelledCurve? e = version.integer?.bind fun _ => (primeField? field).bind fun p =>
      (coefficients? coefficients).bind fun (a, b, seed) => order.integer?.bind fun n =>
      (cofactor? rest).bind fun cofactor => curveOf? p a b seed n cofactor base := by
  rw [spelledCurve?, h]
  obtain _ | ⟨cofactor, _ | ⟨other, rest⟩⟩ := rest
  · rfl
  · rfl
  · rfl

/-- Numbers of a curve and a seed that can be read. -/
structure IsReadable (c : Curve.Weierstrass) (seed : Option Bytes) : Prop where
  odd : c.p % 2 ≠ 0
  five_le : 5 ≤ c.p
  short : bitLength c.p ≤ longestPrime
  a_lt : c.a < c.p
  b_lt : c.b < c.p
  order_pos : 0 < c.order
  order_short : bitLength c.order ≤ bitLength c.p + 1
  seed_ne : seed ≠ some []

/-- A curve in its settled form: its base point is read as it is written, and nothing about the
curve is then kept in another way. -/
structure IsSettled (c : Curve.Weierstrass) (seed : Option Bytes) (form : UInt8) : Prop
    extends IsReadable c seed where
  base : c.point? (c.writePoint form c.base) = some c.base
  kept : spelledAs c seed ((c.writePoint form c.base).headD fullForm) = .spelled c seed form

variable {c given : Curve.Weierstrass} {seed : Option Bytes} {form : UInt8} {octets : Bytes}

theorem IsReadable.withCofactor (h : IsReadable c seed) (cofactor : Nat) :
    IsReadable { c with cofactor := cofactor } seed :=
  ⟨h.odd, h.five_le, h.short, h.a_lt, h.b_lt, h.order_pos, h.order_short, h.seed_ne⟩

/-- A curve with a name is settled as the curve of that name. -/
theorem isSettled_of_nameOf? {oid : ObjectId} (h : IsReadable c seed)
    (hcofactor : c.cofactor = impliedCofactor c.p c.order) (hname : Curve.nameOf? c = some oid) :
    IsSettled c (seed.bind fun _ => Curve.seed? oid) fullForm := by
  have hsame : { c with cofactor := impliedCofactor c.p c.order } = c := by rw [← hcofactor]
  have hseed : (seed.bind fun _ => Curve.seed? oid).bind (fun _ => Curve.seed? oid)
      = seed.bind fun _ => Curve.seed? oid := by
    cases seed with
    | none => rfl
    | some given => cases hoid : Curve.seed? oid <;> simp
  have hne : (seed.bind fun _ => Curve.seed? oid) ≠ some [] := by
    cases seed with
    | none => nofun
    | some given => exact Curve.seed?_ne_nil oid
  refine ⟨⟨h.odd, h.five_le, h.short, h.a_lt, h.b_lt, h.order_pos, h.order_short, hne⟩,
    Curve.Weierstrass.point?_writePoint (Curve.holds_base_of_nameOf? hname), ?_⟩
  change spelledAs c _ fullForm = _
  rw [spelledAs, hsame]
  simp only [hname, hseed]

/-- A curve without a name is settled with a cofactor, its base point as it was given. -/
theorem isSettled_of_point? (h : IsReadable c seed)
    (hcofactor : c.cofactor = 0 → impliedCofactor c.p c.order = 0)
    (hname : Curve.nameOf? { c with cofactor := impliedCofactor c.p c.order } = none)
    (hbase : c.point? octets = some c.base) : IsSettled c seed (octets.headD fullForm) := by
  have hwrite : c.writePoint (octets.headD fullForm) c.base = octets :=
    Curve.Weierstrass.writePoint_of_point? hbase
  have hkept : (if c.cofactor = 0 then impliedCofactor c.p c.order else c.cofactor)
      = c.cofactor := by
    split
    · rename_i hzero
      rw [hcofactor hzero, hzero]
    · rfl
  refine ⟨h, by rw [hwrite, hbase], ?_⟩
  rw [hwrite, spelledAs]
  simp only [hname, hkept]

/-- A curve that is kept is settled. -/
theorem exists_isSettled_of_spelledAs (h : IsReadable given seed)
    (hbase : given.point? octets = some given.base) :
    ∃ c kept form, spelledAs given seed (octets.headD fullForm) = .spelled c kept form
      ∧ IsSettled c kept form := by
  rw [spelledAs]
  cases hname : Curve.nameOf? { given with cofactor := impliedCofactor given.p given.order } with
  | some oid =>
    exact ⟨_, _, _, rfl, isSettled_of_nameOf? (h.withCofactor _) rfl hname⟩
  | none =>
    -- A cofactor that stays zero is one that does not follow, so it is not supplied later either.
    refine ⟨_, _, _, rfl, isSettled_of_point? (h.withCofactor _) ?_ hname hbase⟩
    dsimp only
    intro hzero
    by_cases hgiven : given.cofactor = 0
    · rwa [if_pos hgiven] at hzero
    · rw [if_neg hgiven] at hzero
      exact absurd hzero hgiven

/-- A curve that is read is settled. -/
theorem exists_isSettled_of_spelledCurve? {e : Element} {curve : KeyCurve}
    (h : spelledCurve? e = some curve) :
    ∃ c seed form, curve = .spelled c seed form ∧ IsSettled c seed form := by
  obtain ⟨items, hitems, hread⟩ := Option.bind_eq_some_iff.mp h
  obtain _ | ⟨version, _ | ⟨field, _ | ⟨coefficients, _ | ⟨base, _ | ⟨order, rest⟩⟩⟩⟩⟩ := items
  iterate 5 cases hread
  rw [spelledCurve?_of_items hitems] at h
  obtain ⟨-, -, h⟩ := Option.bind_eq_some_iff.mp h
  obtain ⟨p, -, h⟩ := Option.bind_eq_some_iff.mp h
  obtain ⟨⟨a, b, seed⟩, -, h⟩ := Option.bind_eq_some_iff.mp h
  obtain ⟨n, -, h⟩ := Option.bind_eq_some_iff.mp h
  obtain ⟨cofactor, -, h⟩ := Option.bind_eq_some_iff.mp h
  unfold curveOf? at h
  dsimp only at h
  split at h
  · cases h
  rename_i hsizes
  obtain ⟨octets, -, h⟩ := Option.bind_eq_some_iff.mp h
  split at h
  · rename_i x y hpoint
    obtain rfl := Option.some.inj h
    have hp : 0 < p := by omega
    have hseed : seed ≠ some [] := by
      rintro rfl
      simp at hsizes
    have hreadable : IsReadable
        ⟨p, Bytes.toNat a % p, Bytes.toNat b % p, x, y, n.toNat, cofactor.toNat⟩ seed := by
      refine ⟨fun h => hsizes (.inl h), ?_, ?_, Nat.mod_lt _ hp, Nat.mod_lt _ hp, ?_, ?_, hseed⟩ <;>
        dsimp only <;> omega
    exact exists_isSettled_of_spelledAs hreadable hpoint
  · cases h

/-- The field of a curve, as it is written. -/
theorem primeField?_write {p : Nat} (hpos : 0 < p)
    (hfits : Fits (writeSequence [writePrimitive tagObject oidPrimeField, writeNatural p])) :
    primeField? (.sequence [writePrimitive tagObject oidPrimeField, writeNatural p]) = some p := by
  have hitems : (Element.sequence
      [writePrimitive tagObject oidPrimeField, writeNatural p]).sequence?
        = some [.object oidPrimeField, .integer p] := by
    refine Element.sequence?_of_items ?_ ?_ hfits.contents_of_writeSequence
    · simp [← Element.raw_integer_natCast]
    · simp [Element.isWritten_object, Element.isWritten_integer]
  have hobject : isObject oidPrimeField = true := isObject_of_mem_keyNames (by simp [keyNames])
  rw [primeField?, hitems]
  simp [object?_object hobject, hpos]

/-- The coefficients of a curve with their seed, as they are written. -/
def coefficientParts (a b : Bytes) (seed : Option Bytes) : List Bytes :=
  [writePrimitive tagOctetString a, writePrimitive tagOctetString b,
    (seed.map fun s => BitString.write ⟨0, s⟩).getD []]

theorem coefficients?_write {a b : Bytes}
    (hfits : Fits (writeSequence (coefficientParts a b seed))) :
    coefficients? (.sequence (coefficientParts a b seed)) = some (a, b, seed) := by
  have hitems : (Element.sequence (coefficientParts a b seed)).sequence?
      = some ([.octets a, .octets b] ++ seed.toList.map Element.bits) := by
    refine Element.sequence?_of_items ?_ ?_ hfits.contents_of_writeSequence
    · cases seed <;> simp [coefficientParts, Element.raw_bits]
    · cases seed <;> simp [Element.isWritten_octets, Element.isWritten_bits]
  rw [coefficients?, hitems]
  cases seed <;> simp

/-- The numbers of a settled curve give the curve again. -/
theorem curveOf?_write (h : IsSettled c seed form) :
    curveOf? c.p (Bytes.ofNat c.fieldSize c.a) (Bytes.ofNat c.fieldSize c.b) seed c.order c.cofactor
      (.octets (c.writePoint form c.base)) = some (.spelled c seed form) := by
  have hsize {n : Nat} (hn : n < c.p) : Bytes.toNat (Bytes.ofNat c.fieldSize n) % c.p = n := by
    rw [Curve.Weierstrass.toNat_ofNat_fieldSize hn, Nat.mod_eq_of_lt hn]
  have hsizes : ¬(c.p % 2 = 0 ∨ c.p < 5 ∨ longestPrime < bitLength c.p ∨ (c.order : Int) ≤ 0
      ∨ bitLength c.p + 1 < bitLength c.order ∨ (c.cofactor : Int) < 0
      ∨ seed.any (·.isEmpty) = true) := by
    have hseed : seed.any (·.isEmpty) ≠ true := by
      cases seed with
      | none => nofun
      | some octets =>
        intro hempty
        exact h.seed_ne (congrArg some (List.isEmpty_iff.mp hempty))
    have := h.odd
    have := h.five_le
    have := h.short
    have := h.order_pos
    have := h.order_short
    simp only [hseed, Bool.false_eq_true, or_false]
    omega
  have hpoint : ({ c with baseX := 0, baseY := 0 } : Curve.Weierstrass).point?
      (c.writePoint form c.base) = some (.affine c.baseX c.baseY) := h.base
  simp only [curveOf?, hsize h.a_lt, hsize h.b_lt, Int.toNat_natCast, if_neg hsizes,
    Element.octetString?_octets, Option.bind_some, hpoint]
  exact congrArg some h.kept

/-- The parts of a curve that is spelled out. -/
def curveParts (c : Curve.Weierstrass) (seed : Option Bytes) (form : UInt8) : List Bytes :=
  [writeNatural 1, writeSequence [writePrimitive tagObject oidPrimeField, writeNatural c.p],
    writeSequence
      (coefficientParts (Bytes.ofNat c.fieldSize c.a) (Bytes.ofNat c.fieldSize c.b) seed),
    writePrimitive tagOctetString (c.writePoint form c.base), writeNatural c.order,
    writeNatural c.cofactor]

/-- A settled curve is read as it is written. -/
theorem spelledCurve?_writeCurve (h : IsSettled c seed form)
    (hfits : Fits (writeCurve c seed form)) :
    (elementOf? (writeCurve c seed form)).bind spelledCurve? = some (.spelled c seed form) := by
  have hfield : Fits (writeSequence [writePrimitive tagObject oidPrimeField, writeNatural c.p]) :=
    hfits.part_of_writeSequence (by simp)
  have hcoefficients : Fits (writeSequence (coefficientParts (Bytes.ofNat c.fieldSize c.a)
      (Bytes.ofNat c.fieldSize c.b) seed)) :=
    hfits.part_of_writeSequence (by simp [coefficientParts])
  have hitems : (Element.sequence (curveParts c seed form)).sequence?
      = some [.integer 1, .sequence [writePrimitive tagObject oidPrimeField, writeNatural c.p],
        .sequence
          (coefficientParts (Bytes.ofNat c.fieldSize c.a) (Bytes.ofNat c.fieldSize c.b) seed),
        .octets (c.writePoint form c.base), .integer c.order, .integer c.cofactor] := by
    refine Element.sequence?_of_items ?_ ?_ hfits.contents_of_writeSequence
    · simp [curveParts, ← Element.raw_integer_natCast]
    · simp [Element.isWritten_integer, Element.isWritten_octets, Element.isWritten_sequence]
  have hparts : Fits (writeSequence (curveParts c seed form)) := hfits
  change (elementOf? (writeSequence (curveParts c seed form))).bind spelledCurve? = _
  rw [elementOf?_writeSequence hparts, Option.bind_some, spelledCurve?_of_items hitems]
  have hpos : 0 < c.p := by
    have := h.five_le
    omega
  simp only [Element.integer?_integer, primeField?_write hpos hfield,
    coefficients?_write hcoefficients, cofactor?, Option.bind_some]
  exact curveOf?_write h

end SubjectKey

end X509

end PeerTrust
