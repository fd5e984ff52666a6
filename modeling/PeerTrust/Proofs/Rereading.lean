import PeerTrust.Certificate
import PeerTrust.Proofs.Armour
import PeerTrust.Proofs.ReadEach
import PeerTrust.Proofs.Specimen
import PeerTrust.Proofs.X509.Rewriting

/-!
# Certificates that the engine reads again

The engine keeps a certificate with its octets, and reads these again wherever it needs the whole
certificate. From an encoding it keeps the octets that it was given; from an armoured text, those
that the certificate is written as. The latter cannot be read if the parameters of the algorithm are
written as a mark for the end of contents, and in no other case. Whether or not they can be read,
they say everything that the engine keeps: certificates with the same octets are equal, whatever
readers they came from.
-/

namespace PeerTrust

namespace PeerCertificate

variable {text : Bytes} {c : PeerCertificate} {x : X509.Certificate}

/-- A certificate that one of the readers gave. -/
inductive IsRead : PeerCertificate → Prop
  | ofDer {der : Bytes} {c : PeerCertificate} (h : ofDer der = .ok c) : c.IsRead
  | ofArmour {text : Bytes} {c : PeerCertificate} (h : ofArmour text = .ok c) : c.IsRead
  | bundle {text : Bytes} {cs : List PeerCertificate} {c : PeerCertificate}
      (h : bundle text = .ok cs) (hc : c ∈ cs) : c.IsRead

theorem beq_eq_true_iff {a b : PeerCertificate} : (a == b) = true ↔ a.der = b.der :=
  beq_iff_eq (a := a.der)

/-- What the engine keeps is taken from the signed part. -/
theorem ofX509_congr (der : Bytes) {x y : X509.Certificate} (h : x.body = y.body) :
    ofX509 der x = ofX509 der y :=
  X509.Certificate.congr_body (ofX509 der) (fun _ _ _ _ _ => rfl) h

theorem der_of_ofX509 {der : Bytes} (h : ofX509 der x = .ok c) : c.der = der := by
  unfold ofX509 at h
  split at h
  · cases h
    rfl
  · cases h

/-- A certificate that is read has the octets of its encoding. -/
theorem ofDer_eq_ok_iff {der : Bytes} :
    ofDer der = .ok c ↔ ∃ x, X509.Certificate.ofDer? der = some x ∧ ofX509 der x = .ok c := by
  unfold ofDer
  cases X509.Certificate.ofDer? der with
  | none =>
    refine iff_of_false nofun ?_
    rintro ⟨x, hx, -⟩
    cases hx
  | some x =>
    constructor
    · exact fun h => ⟨x, rfl, h⟩
    · rintro ⟨_, ⟨⟩, h⟩
      exact h

/-- A certificate from a text has the octets that it is written as. -/
theorem ofWritten_eq_ok_iff :
    ofWritten x = .ok c ↔ x.write.length < Bytes.writtenLimit ∧ ofX509 x.write x = .ok c := by
  unfold ofWritten
  dsimp only
  split
  · rename_i hsize
    exact (and_iff_right hsize).symm
  · rename_i hsize
    exact iff_of_false nofun (fun h => hsize h.1)

theorem isRead_of_certificates? {blocks : List (Option ArmourBlock)} {xs : List X509.Certificate}
    (h : certificates? blocks = some xs) (hx : x ∈ xs) : x.IsRead := by
  fun_induction certificates? blocks generalizing xs with
  | case1 =>
    cases h
    cases hx
  | case2 => cases h
  | case3 b rest hlabel hheader ih =>
    obtain ⟨y, hy, h⟩ := Option.bind_eq_some_iff.mp h
    obtain ⟨ys, hys, h⟩ := Option.bind_eq_some_iff.mp h
    cases h
    rcases List.mem_cons.mp hx with rfl | hx
    · exact ⟨_, hy⟩
    · exact ih hys hx
  | case4 => cases h
  | case5 b rest hlabel ih => exact ih h hx

/-- The certificates of a text are those in its blocks, of which there is one at least, each as it
is written. -/
theorem bundle_eq_ok_iff {cs : List PeerCertificate} :
    bundle text = .ok cs ↔ cs ≠ [] ∧ ∃ xs, certificates? (Armour.blocks text) = some xs
      ∧ List.Forall₂ (fun x c => ofWritten x = .ok c) xs cs := by
  unfold bundle
  split
  · rename_i hnone
    rw [hnone]
    exact iff_of_false nofun (fun ⟨_, _, h, _⟩ => nomatch h)
  · rename_i hnil
    rw [hnil]
    refine iff_of_false nofun ?_
    rintro ⟨hne, _, ⟨⟩, hread⟩
    exact hne (List.forall₂_nil_left_iff.mp hread)
  · rename_i xs hne hxs
    rw [hxs, mapM_eq_ok_iff]
    constructor
    · intro hread
      refine ⟨?_, xs, rfl, hread⟩
      rintro rfl
      exact hne (List.forall₂_nil_right_iff.mp hread)
    · rintro ⟨-, _, ⟨⟩, hread⟩
      exact hread

/-- The first certificate of a text is the first of them all. -/
theorem exists_bundle_of_ofArmour (h : ofArmour text = .ok c) :
    ∃ cs, bundle text = .ok (c :: cs) := by
  obtain ⟨cs, hcs, h⟩ := bind_eq_ok_iff.mp h
  cases cs with
  | nil => cases h
  | cons first cs =>
    cases h
    exact ⟨cs, hcs⟩

/-- A certificate from a text is read again from the octets that it is written as, unless the
parameters of its algorithm are written as a mark for the end of contents. -/
theorem ofDer_of_ofWritten (hx : x.IsRead) (h : ofWritten x = .ok c) :
    ofDer c.der = if x.algorithm.EndsEarly then .error (.invalidDer c.der) else .ok c := by
  obtain ⟨hsize, hc⟩ := ofWritten_eq_ok_iff.mp h
  rw [der_of_ofX509 hc, ofDer, hx.ofDer?_write (Asn1.fits_of_lt_writtenLimit hsize)]
  by_cases hend : x.algorithm.EndsEarly
  · rw [if_pos hend, if_pos hend]
  · rw [if_neg hend, if_neg hend]
    exact (ofX509_congr x.write rfl).trans hc

/-- A certificate from a text that is written with an algorithm that ends early. -/
def LostInWriting (c : PeerCertificate) : Prop :=
  ∃ x : X509.Certificate, x.IsRead ∧ ofWritten x = .ok c ∧ x.algorithm.EndsEarly

/-- What was read when the engine took a certificate over: what its octets are read as, or what they
were written for. -/
structure Source (c : PeerCertificate) (x : X509.Certificate) : Prop where
  isRead : x.IsRead
  taken : ofX509 c.der x = .ok c
  octets : X509.Certificate.ofDer? c.der = some x ∨ c.der = x.write ∧ Asn1.Fits x.write

theorem source_of_ofDer {der : Bytes} (h : ofDer der = .ok c) : ∃ x, c.Source x := by
  obtain ⟨x, hx, hc⟩ := ofDer_eq_ok_iff.mp h
  have hder := der_of_ofX509 hc
  exact ⟨x, ⟨der, hx⟩, by rw [hder, hc], .inl (by rw [hder, hx])⟩

theorem source_of_ofWritten (hx : x.IsRead) (h : ofWritten x = .ok c) : c.Source x := by
  obtain ⟨hsize, hc⟩ := ofWritten_eq_ok_iff.mp h
  have hder := der_of_ofX509 hc
  exact ⟨hx, by rw [hder, hc], .inr ⟨hder, Asn1.fits_of_lt_writtenLimit hsize⟩⟩

theorem source_of_bundle {cs : List PeerCertificate} (h : bundle text = .ok cs) (hc : c ∈ cs) :
    ∃ x, c.Source x := by
  obtain ⟨-, xs, hxs, hread⟩ := bundle_eq_ok_iff.mp h
  obtain ⟨x, hx, hwritten⟩ := exists_of_forall₂ hread hc
  exact ⟨x, source_of_ofWritten (isRead_of_certificates? hxs hx) hwritten⟩

theorem IsRead.exists_source (h : c.IsRead) : ∃ x, c.Source x := by
  cases h with
  | ofDer h => exact source_of_ofDer h
  | ofArmour h =>
    obtain ⟨cs, hcs⟩ := exists_bundle_of_ofArmour h
    exact source_of_bundle hcs List.mem_cons_self
  | bundle h hc => exact source_of_bundle h hc

/-- Octets that are read are read as the signed part that they were written for. -/
theorem Source.body_eq {der : Bytes} {x y : X509.Certificate}
    (hx : X509.Certificate.ofDer? der = some x) (hy : y.IsRead) (hder : der = y.write)
    (hfits : Asn1.Fits y.write) : x.body = y.body := by
  rw [hder, hy.ofDer?_write hfits] at hx
  split at hx
  · cases hx
  · cases hx
    rfl

/-- Octets have one signed part, whichever way they come by it. -/
theorem Source.body_unique {a b : PeerCertificate} {x y : X509.Certificate} (hx : a.Source x)
    (hy : b.Source y) (hder : a.der = b.der) : x.body = y.body := by
  rcases hx.octets with hread | ⟨hwrite, hfits⟩ <;>
    rcases hy.octets with hread' | ⟨hwrite', hfits'⟩
  · rw [hder, hread'] at hread
    rw [Option.some.inj hread]
  · exact body_eq (hder ▸ hread) hy.isRead hwrite' hfits'
  · exact (body_eq hread' hx.isRead (hder ▸ hwrite) hfits).symm
  · refine hx.isRead.body_eq_of_same hy.isRead (beq_iff_eq.mpr ?_)
    rw [← hwrite, ← hwrite', hder]

/-- Certificates that count as equal are. -/
theorem IsRead.eq_of_beq {a b : PeerCertificate} (ha : a.IsRead) (hb : b.IsRead)
    (h : (a == b) = true) : a = b := by
  have hder := beq_eq_true_iff.mp h
  obtain ⟨x, hx⟩ := ha.exists_source
  obtain ⟨y, hy⟩ := hb.exists_source
  have htaken := hx.taken
  rw [hder, ofX509_congr b.der (hx.body_unique hy hder), hy.taken] at htaken
  exact (Except.ok.inj htaken).symm

theorem ofDer_of_ofDer {der : Bytes} (h : ofDer der = .ok c) : ofDer c.der = .ok c := by
  obtain ⟨x, -, hc⟩ := ofDer_eq_ok_iff.mp h
  rw [der_of_ofX509 hc, h]

/-- Only certificates that were lost in writing are none to the decoder when they are read again. -/
theorem IsRead.ofDer?_der_eq_none_iff (h : c.IsRead) :
    X509.Certificate.ofDer? c.der = none ↔ c.LostInWriting := by
  constructor
  · intro hnone
    have hreads : ¬PeerCertificate.ofDer c.der = .ok c := by
      rw [PeerCertificate.ofDer, hnone]
      nofun
    have hlost {text : Bytes} {cs : List PeerCertificate} (hcs : PeerCertificate.bundle text = .ok cs)
        (hc : c ∈ cs) : c.LostInWriting := by
      obtain ⟨-, xs, hxs, hread⟩ := bundle_eq_ok_iff.mp hcs
      obtain ⟨x, hx, hwritten⟩ := exists_of_forall₂ hread hc
      have hx := isRead_of_certificates? hxs hx
      refine ⟨x, hx, hwritten, ?_⟩
      by_contra hend
      have hagain := ofDer_of_ofWritten hx hwritten
      rw [if_neg hend] at hagain
      exact hreads hagain
    cases h with
    | ofDer h => exact absurd (ofDer_of_ofDer h) hreads
    | ofArmour h =>
      obtain ⟨cs, hcs⟩ := exists_bundle_of_ofArmour h
      exact hlost hcs List.mem_cons_self
    | bundle h hc => exact hlost h hc
  · rintro ⟨x, hx, hwritten, hend⟩
    obtain ⟨hsize, hc⟩ := ofWritten_eq_ok_iff.mp hwritten
    rw [der_of_ofX509 hc, hx.ofDer?_write (Asn1.fits_of_lt_writtenLimit hsize), if_pos hend]

/-- A certificate from an encoding is read again from its octets, as the same. So is one from a text,
unless the parameters of its algorithm are written as a mark for the end of contents: then it is no
certificate to the decoder. The certificate of a text is the first of all in it. In either case
certificates that count as equal are equal in every respect, be they from encodings or from
texts. -/
theorem ofDer_der (der text : Bytes) :
    (∀ c, ofDer der = .ok c → ofDer c.der = .ok c)
    ∧ (∀ cs, bundle text = .ok cs →
      ∃ xs, certificates? (Armour.blocks text) = some xs ∧ List.Forall₂ (fun x c =>
        ofDer c.der = if x.algorithm.EndsEarly then .error (.invalidDer c.der) else .ok c) xs cs)
    ∧ (∀ c, ofArmour text = .ok c → ∃ cs, bundle text = .ok (c :: cs))
    ∧ ∀ a b : PeerCertificate, a.IsRead → b.IsRead → (a == b) = true → a = b := by
  refine ⟨fun c => ofDer_of_ofDer, fun cs h => ?_, fun c => exists_bundle_of_ofArmour,
    fun a b => IsRead.eq_of_beq⟩
  obtain ⟨-, xs, hxs, hread⟩ := bundle_eq_ok_iff.mp h
  refine ⟨xs, hxs, ?_⟩
  have hall : ∀ x ∈ xs, x.IsRead := fun x => isRead_of_certificates? hxs
  exact ((List.forall₂_and_left xs cs).mpr ⟨hall, hread⟩).imp fun _ _ h =>
    ofDer_of_ofWritten h.1 h.2

/-- Certificates of a text in armour, by what its contents are read as. -/
theorem bundle_armour {der : Bytes} (hne : der ≠ [])
    (hx : X509.Certificate.ofDer? der = some x) (hc : ofWritten x = .ok c) :
    bundle (Utf8.encodeString (Specimen.armour der)) = .ok [c] := by
  have hlabel : Armour.IsLabel (Bytes.ofLatin "CERTIFICATE") :=
    ⟨by decide, by decide, by decide, by decide⟩
  have hascii : "CERTIFICATE".toList.all (·.toNat < 0x80) = true := by decide
  have hblocks := Armour.blocks_write hne hlabel
    (fun c hc => of_decide_eq_true (List.all_eq_true.mp hascii c hc)) []
  rw [List.append_nil, Armour.blocks_nil] at hblocks
  refine bundle_eq_ok_iff.mpr ⟨List.cons_ne_nil _ _, [x], ?_, .cons hc .nil⟩
  rw [Utf8.encodeString, Specimen.armour, String.toList_ofList, hblocks]
  have hlisted : Bytes.ofLatin "CERTIFICATE" ∈ labels := by decide
  simp [certificates?, hlisted, hx]

theorem ofArmour_of_bundle {cs : List PeerCertificate} (h : bundle text = .ok (c :: cs)) :
    ofArmour text = .ok c :=
  bind_eq_ok_iff.mpr ⟨_, h, rfl⟩

/-- An element without contents is no certificate. -/
theorem ofDer_null : ofDer (Asn1.writePrimitive Asn1.tagNull [])
    = .error (.invalidDer (Asn1.writePrimitive Asn1.tagNull [])) := by
  have hsize : Asn1.Fits [] := Asn1.fits_of_lt_writtenLimit (by decide)
  have hread := @Asn1.Element.read_primitive Asn1.tagNull [] (by decide) hsize []
  rw [List.append_nil] at hread
  rw [ofDer, X509.Certificate.ofDer?, hread]
  rfl

/-- The certificate of the specimen, from its encoding and from armour. -/
theorem bundle_specimen :
    ∃ c x, ofDer (Specimen.certificate [Utf8.encodeString "a"]) = .ok c
      ∧ bundle (Utf8.encodeString (Specimen.armour (Specimen.certificate [Utf8.encodeString "a"])))
        = .ok [x]
      ∧ c.der = x.der := by
  have hrun : ∃ c ∈ (ofDer (Specimen.certificate [Utf8.encodeString "a"])).toOption,
      ∃ x ∈ X509.Certificate.ofDer? (Specimen.certificate [Utf8.encodeString "a"]),
      ∃ c' ∈ (ofWritten x).toOption, c.der = c'.der := by
    decide +kernel
  obtain ⟨c, hc, x, hx, c', hc', hder⟩ := hrun
  exact ⟨c, c', eq_ok_of_mem_toOption hc,
    bundle_armour (Asn1.write_ne_nil _ _ _) hx (eq_ok_of_mem_toOption hc'), hder⟩

/-- A certificate is the same whether it comes from its encoding or from armour, and is read again
in both cases. -/
theorem ofDer_der_specimen :
    ∃ der text c x, ofDer der = .ok c ∧ bundle text = .ok [c] ∧ ofArmour text = .ok c
      ∧ ofDer c.der = .ok c ∧ certificates? (Armour.blocks text) = some [x]
      ∧ ¬x.algorithm.EndsEarly := by
  obtain ⟨c, c', hread, hbundle, hder⟩ := bundle_specimen
  have hfirst := ofArmour_of_bundle hbundle
  obtain ⟨hagain, htexts, -, hequal⟩ := ofDer_der (Specimen.certificate [Utf8.encodeString "a"])
    (Utf8.encodeString (Specimen.armour (Specimen.certificate [Utf8.encodeString "a"])))
  obtain rfl : c = c' :=
    hequal c c' (.ofDer hread) (.ofArmour hfirst) (beq_eq_true_iff.mpr hder)
  obtain ⟨xs, hxs, hrel⟩ := htexts _ hbundle
  obtain ⟨x, _, hx, hrest, rfl⟩ := List.forall₂_cons_right_iff.mp hrel
  cases List.forall₂_nil_right_iff.mp hrest
  refine ⟨_, _, c, x, hread, hbundle, hfirst, hagain c hread, hxs, ?_⟩
  rw [hagain c hread] at hx
  intro hend
  rw [if_pos hend] at hx
  cases hx

/-- A certificate is lost in writing if its algorithm has a mark for the end of contents in a longer
spelling as parameters. -/
theorem bundle_markedAlgorithm :
    ∃ c, bundle (Utf8.encodeString
      (Specimen.armour (Specimen.certificateBy Specimen.markedAlgorithm))) = .ok [c]
      ∧ c.LostInWriting := by
  have hrun : ∃ x ∈ X509.Certificate.ofDer? (Specimen.certificateBy Specimen.markedAlgorithm),
      ∃ c ∈ (ofWritten x).toOption, x.algorithm.EndsEarly := by
    decide +kernel
  obtain ⟨x, hx, c, hc, hend⟩ := hrun
  have hwritten := eq_ok_of_mem_toOption hc
  have hne : Specimen.certificateBy Specimen.markedAlgorithm ≠ [] := Asn1.write_ne_nil _ _ _
  exact ⟨c, bundle_armour hne hx hwritten, x, ⟨_, hx⟩, hwritten, hend⟩

/-- It is the certificate of its text, and no certificate to the decoder when it is read again. -/
theorem ofDer_der_of_markedAlgorithm :
    ∃ text c, ofArmour text = .ok c ∧ bundle text = .ok [c]
      ∧ ofDer c.der = .error (.invalidDer c.der) := by
  obtain ⟨c, hbundle, hlost⟩ := bundle_markedAlgorithm
  have hfirst := ofArmour_of_bundle hbundle
  refine ⟨_, c, hfirst, hbundle, ?_⟩
  rw [ofDer, (IsRead.ofArmour hfirst).ofDer?_der_eq_none_iff.mpr hlost]

end PeerCertificate

end PeerTrust
