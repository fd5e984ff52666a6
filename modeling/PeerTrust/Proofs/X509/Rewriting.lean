import PeerTrust.Proofs.Asn1.Values
import PeerTrust.Proofs.X509.Identity

/-!
# Certificates that are written and read again

A certificate is written around the octets of its signed part. The signed part and the signature
are read again whatever they are. So is the algorithm between them, unless its parameters are the
one value that is written as a mark for the end of contents.
-/

namespace PeerTrust.X509

open PeerTrust.Asn1

namespace Algorithm

/-- An algorithm that was read from an element. -/
def IsRead (a : Algorithm) : Prop :=
  ∃ e : Element, e.IsRead ∧ ofElement? e = some a

/-- Whether the parameters of an algorithm are written as a mark for the end of contents. -/
def EndsEarly (a : Algorithm) : Prop :=
  a.parameters = some .endMark

instance : DecidablePred EndsEarly :=
  fun _ => inferInstanceAs (Decidable (_ = _))

theorem IsRead.parts {a : Algorithm} (h : a.IsRead) :
    isObject a.oid = true ∧ ∀ v, a.parameters = some v → v.IsRead := by
  obtain ⟨e, -, ha⟩ := h
  unfold ofElement? at ha
  split at ha
  · obtain ⟨oid, hoid, rfl⟩ := Option.map_eq_some_iff.mp ha
    exact ⟨Element.isObject_of_object? hoid, nofun⟩
  · rename_i type parameters hitems
    obtain ⟨oid, hoid, ha⟩ := Option.bind_eq_some_iff.mp ha
    obtain ⟨value, hvalue, ha⟩ := Option.bind_eq_some_iff.mp ha
    cases ha
    refine ⟨Element.isObject_of_object? hoid, ?_⟩
    rintro _ ⟨⟩
    exact ⟨parameters, Element.isRead_of_sequence? hitems (by simp), hvalue⟩
  · cases ha

/-- The object identifier in front of parameters is read, and then the parameters are. -/
theorem readAll_oid {oid : ObjectId} (hsize : Fits oid) (more : Bytes) :
    Element.readAll false (writePrimitive tagObject oid ++ more)
      = (Element.readAll false more).map (Element.primitive tagObject oid :: ·) :=
  (@Element.isRead_primitive tagObject oid (by decide) hsize).readAll_append rfl false more

/-- An algorithm that is written, as it is read again. -/
def element (a : Algorithm) : Element :=
  .sequence [writePrimitive tagObject a.oid, (a.parameters.map AnyValue.write).getD []]

theorem isRead_element {a : Algorithm} (hsize : Fits a.write) : a.element.IsRead :=
  Element.isRead_sequence hsize.contents_of_writeSequence

/-- An algorithm is read again from its own octets, unless its parameters end it early. -/
theorem ofElement?_element {a : Algorithm} (h : a.IsRead)
    (hsize : Fits a.write) :
    ofElement? a.element = if a.EndsEarly then none else some a := by
  obtain ⟨hobject, hparameters⟩ := h.parts
  have hoid : Fits a.oid :=
    (hsize.part_of_writeSequence List.mem_cons_self).of_length_le (length_le_writePrimitive _ _)
  have hread := Element.object?_primitive hobject
  obtain ⟨oid, parameters⟩ := a
  cases parameters with
  | none =>
    have hitems := @Element.readAll_primitive tagObject oid (by decide) hoid rfl
    rw [ofElement?, element, Element.sequence?_sequence]
    simp only [Option.map_none, Option.getD_none, List.flatten_cons, List.flatten_nil,
      List.append_nil, hitems, hread]
    exact (if_neg nofun).symm
  | some v =>
    have hv : v.IsRead := hparameters v rfl
    have hvsize : Fits v.write := hsize.part_of_writeSequence (by simp)
    have hitems := readAll_oid hoid v.write
    rw [ofElement?, element, Element.sequence?_sequence]
    simp only [Option.map_some, Option.getD_some, List.flatten_cons, List.flatten_nil,
      List.append_nil, hitems]
    by_cases hmark : v = .endMark
    · rw [if_pos (show EndsEarly ⟨oid, some v⟩ from congrArg some hmark), hmark,
        AnyValue.readAll_endMark]
      rfl
    · obtain ⟨e, he, hvalue⟩ := AnyValue.readAll_write hv hvsize hmark
      rw [if_neg (show ¬EndsEarly ⟨oid, some v⟩ from fun h => hmark (Option.some.inj h))]
      simp [he, hread, hvalue]

end Algorithm

namespace Certificate

variable {c : Certificate}

/-- The parts of a certificate that was read. The signed part begins like no end of contents. -/
theorem IsRead.parts (h : c.IsRead) :
    (∃ body : Element, body.IsRead ∧ Body.ofElement? body = some c.body
        ∧ body.raw = c.body.raw ∧ closes body.raw = false)
      ∧ c.algorithm.IsRead ∧ ∃ bs, bitStringOf? bs = some c.signature := by
  obtain ⟨der, hder⟩ := h
  obtain ⟨⟨e, after⟩, -, hcert⟩ := Option.bind_eq_some_iff.mp hder
  dsimp only at hcert
  unfold ofElement? at hcert
  split at hcert
  · rename_i body algorithm signature hitems
    obtain ⟨b, hbody, hcert⟩ := Option.bind_eq_some_iff.mp hcert
    obtain ⟨a, halgorithm, hcert⟩ := Option.bind_eq_some_iff.mp hcert
    obtain ⟨s, hsignature, hcert⟩ := Option.bind_eq_some_iff.mp hcert
    cases hcert
    have hread {part : Element} (hpart : part ∈ [body, algorithm, signature]) : part.IsRead :=
      Element.isRead_of_sequence? hitems hpart
    have hbodyRead : body.IsRead := hread (by simp)
    refine ⟨⟨body, hbodyRead, hbody, (Body.raw_of_ofElement? hbody).symm, ?_⟩,
      ⟨algorithm, hread (by simp), halgorithm⟩, ?_⟩
    · obtain ⟨items, hsequence, -⟩ := Option.bind_eq_some_iff.mp hbody
      exact hbodyRead.closes_of_sequence? hsequence
    · unfold Element.bitString? at hsignature
      split at hsignature
      · exact Element.exists_of_bitStringContents? hsignature
      · cases hsignature
  · cases hcert

/-- A certificate as it is read again where it is: the signature without unused bits where it has
no octets. -/
def settled (c : Certificate) : Certificate :=
  { c with signature := ⟨c.signature.writtenUnused, c.signature.octets⟩ }

/-- A certificate that is written is read again, unless the parameters end its algorithm early. -/
theorem IsRead.ofDer?_write (h : c.IsRead) (hsize : Fits c.write) :
    ofDer? c.write = if c.algorithm.EndsEarly then none else some c.settled := by
  obtain ⟨⟨body, hbodyRead, hbody, hraw, hopen⟩, halgorithm, bs, hbs⟩ := h.parts
  have hparts {part : Bytes} (hpart : part ∈ [c.body.raw, c.algorithm.write, c.signature.write]) :
      Fits part := hsize.part_of_writeSequence hpart
  have halgorithmRead : c.algorithm.element.IsRead := Algorithm.isRead_element (hparts (by simp))
  have hsignature := BitString.readAll_write hbs (hparts (by simp))
  have hitems : Element.readAll false [c.body.raw, c.algorithm.write, c.signature.write].flatten
      = some [body, c.algorithm.element, .primitive tagBitString
          (UInt8.ofNat c.signature.writtenUnused :: c.signature.octets)] := by
    simp only [List.flatten_cons, List.flatten_nil, List.append_nil]
    rw [← hraw, show c.algorithm.write = c.algorithm.element.raw from rfl,
      hbodyRead.readAll_append hopen false,
      halgorithmRead.readAll_append (closes_writeSequence _) false, hsignature]
    rfl
  have hread := Element.read_sequence hsize.contents_of_writeSequence []
  rw [List.append_nil] at hread
  rw [ofDer?, write, hread]
  change ofElement? _ = _
  rw [ofElement?, Element.sequence?_sequence, hitems]
  dsimp only
  rw [hbody, Algorithm.ofElement?_element halgorithm (hparts (by simp)),
    Element.bitString?_primitive hbs]
  split <;> rfl

end Certificate

end PeerTrust.X509
