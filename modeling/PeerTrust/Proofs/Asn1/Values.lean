import PeerTrust.Asn1.Value
import PeerTrust.Proofs.Asn1.Writing

/-!
# Values that are written are read again

Values are written in one way, however they were read: with the least length, strings in one piece,
and the unused bits of a bit string cleared. What is written is read as the value again. There is one
value of any type that is not: the empty one of universal number zero. With a length in two octets
it is told from the mark that ends contents, but as it is written it is that mark.
-/

namespace PeerTrust.Asn1

section BitStrings

/-! ### Bit strings -/

theorem clearUnused_append_singleton (unused : Nat) (bs : Bytes) (b : UInt8) :
    clearUnused unused (bs ++ [b])
      = bs ++ [UInt8.ofNat (b.toNat / Nat.pow 2 unused * Nat.pow 2 unused)] := by
  simp [clearUnused]

/-- Bits that are cleared stay so. -/
theorem clearUnused_clearUnused (unused : Nat) (bs : Bytes) :
    clearUnused unused (clearUnused unused bs) = clearUnused unused bs := by
  rcases List.eq_nil_or_concat' bs with rfl | ⟨front, last, rfl⟩
  · rfl
  · have hpos : 0 < Nat.pow 2 unused := Nat.pow_pos (by decide)
    have hlast : (UInt8.ofNat (last.toNat / Nat.pow 2 unused * Nat.pow 2 unused)).toNat
        = last.toNat / Nat.pow 2 unused * Nat.pow 2 unused :=
      UInt8.toNat_ofNat_of_lt'
        (Nat.lt_of_le_of_lt (Nat.div_mul_le_self _ _) last.toNat_lt)
    rw [clearUnused_append_singleton, clearUnused_append_singleton, hlast,
      Nat.mul_div_cancel _ hpos]

/-- How many bits of the last octet are written as unused: none where there is no octet. -/
def BitString.writtenUnused (s : BitString) : Nat :=
  if s.octets.isEmpty then 0 else s.unused

/-- A bit string that was read has no bits set that are unused, of which there are at most seven. -/
theorem bitStringOf?_spec {bs : Bytes} {s : BitString} (h : bitStringOf? bs = some s) :
    s.unused < 8 ∧ clearUnused s.unused s.octets = s.octets := by
  unfold bitStringOf? at h
  split at h
  · cases h
  · rename_i b rest
    split at h
    · rename_i hfew
      obtain rfl := Option.some.inj h
      exact ⟨UInt8.lt_iff_toNat_lt.mp hfew, clearUnused_clearUnused _ _⟩
    · cases h

theorem bitStringOf?_cons {unused : Nat} (h : unused < 8) (octets : Bytes) :
    bitStringOf? (UInt8.ofNat unused :: octets) = some ⟨unused, clearUnused unused octets⟩ := by
  have hvalue : (UInt8.ofNat unused).toNat = unused :=
    UInt8.toNat_ofNat_of_lt' (Nat.lt_trans h (by decide))
  have hfew : UInt8.ofNat unused < 8 := by
    rw [UInt8.lt_iff_toNat_lt, hvalue]
    exact h
  rw [bitStringOf?, if_pos hfew, hvalue]

theorem BitString.writtenUnused_lt {bs : Bytes} {s : BitString} (h : bitStringOf? bs = some s) :
    s.writtenUnused < 8 := by
  unfold writtenUnused
  split
  · decide
  · exact (bitStringOf?_spec h).1

theorem BitString.clearUnused_writtenUnused {bs : Bytes} {s : BitString}
    (h : bitStringOf? bs = some s) : clearUnused s.writtenUnused s.octets = s.octets := by
  unfold writtenUnused
  split
  · rename_i hempty
    rw [List.isEmpty_iff.mp hempty]
    rfl
  · exact (bitStringOf?_spec h).2

/-- Writing once more changes nothing about the unused bits. -/
theorem BitString.writtenUnused_written (s : BitString) :
    BitString.writtenUnused ⟨s.writtenUnused, s.octets⟩ = s.writtenUnused := by
  unfold writtenUnused
  split <;> rfl

end BitStrings

section Primitive

/-! ### Primitive elements -/

/-- A primitive element of a universal type, by its contents. -/
def Element.primitive (number : Nat) (contents : Bytes) : Element :=
  ⟨⟨.universal, number⟩, false, false, writeHeader ⟨.universal, number⟩ false contents.length,
    contents⟩

variable {number : Nat} {contents : Bytes}

theorem length_le_writePrimitive (number : Nat) (contents : Bytes) :
    contents.length ≤ (writePrimitive number contents).length := by
  simp only [writePrimitive, write, List.length_append]
  exact Nat.le_add_left _ _

@[simp] theorem Element.raw_primitive :
    (primitive number contents).raw = writePrimitive number contents := rfl

theorem Element.read_primitive (hnumber : number < 0x80000000)
    (hsize : Fits contents) (rest : Bytes) :
    read (writePrimitive number contents ++ rest) = some (primitive number contents, rest) :=
  @read_write ⟨.universal, number⟩ hnumber false contents hsize rest

theorem Element.isRead_primitive (hnumber : number < 0x80000000)
    (hsize : Fits contents) : (primitive number contents).IsRead :=
  ⟨_, [], read_primitive hnumber hsize []⟩

@[simp] theorem Element.isUniversal_primitive :
    (primitive number contents).isUniversal number = true := by
  simp [primitive, isUniversal]

@[simp] theorem Element.plainContents?_primitive :
    (primitive number contents).plainContents? = some contents := rfl

@[simp] theorem Element.stringContents?_primitive :
    (primitive number contents).stringContents? = some contents := by
  simp [stringContents?, gather, primitive]

/-- Contents end with a primitive element, unless it looks like their end. -/
theorem Element.readAll_primitive (hnumber : number < 0x80000000)
    (hsize : Fits contents)
    (hopen : closes (writePrimitive number contents) = false) :
    readAll false (writePrimitive number contents) = some [primitive number contents] :=
  (isRead_primitive hnumber hsize).readAll_raw hopen

theorem Element.object?_primitive (h : isObject contents = true) :
    (primitive tagObject contents).object? = some contents := by
  simp [object?, h]

theorem Element.isObject_of_object? {e : Element} (h : e.object? = some contents) :
    isObject contents = true := by
  obtain ⟨bs, -, h⟩ := Option.bind_eq_some_iff.mp h
  split at h
  · rename_i hobject
    cases h
    exact hobject.2
  · cases h

theorem Element.integerContents?_primitive (h : isInteger contents = true) :
    (primitive number contents).integerContents? = some contents := by
  simp [integerContents?, h]

theorem Element.isInteger_of_integerContents? {e : Element}
    (h : e.integerContents? = some contents) : isInteger contents = true := by
  obtain ⟨bs, -, h⟩ := Option.bind_eq_some_iff.mp h
  split at h
  · rename_i hinteger
    cases h
    exact hinteger
  · cases h

/-- The bit string that contents of an element spell. -/
theorem Element.exists_of_bitStringContents? {e : Element} {s : BitString}
    (h : e.bitStringContents? = some s) : ∃ bs, bitStringOf? bs = some s := by
  obtain ⟨bs, -, hs⟩ := Option.bind_eq_some_iff.mp h
  exact ⟨bs, hs⟩

theorem Element.bitStringContents?_primitive {bs : Bytes} {s : BitString}
    (h : bitStringOf? bs = some s) :
    (primitive number (UInt8.ofNat s.writtenUnused :: s.octets)).bitStringContents?
      = some ⟨s.writtenUnused, s.octets⟩ := by
  rw [bitStringContents?, stringContents?_primitive, Option.bind_some,
    bitStringOf?_cons (BitString.writtenUnused_lt h), BitString.clearUnused_writtenUnused h]

theorem BitString.write_eq {bs : Bytes} {s : BitString} (h : bitStringOf? bs = some s) :
    s.write = writePrimitive tagBitString (UInt8.ofNat s.writtenUnused :: s.octets) := by
  change writePrimitive tagBitString
    (UInt8.ofNat s.writtenUnused :: clearUnused s.writtenUnused s.octets) = _
  rw [BitString.clearUnused_writtenUnused h]

/-- Contents end with a bit string that is written. -/
theorem BitString.readAll_write {bs : Bytes} {s : BitString} (h : bitStringOf? bs = some s)
    (hsize : Fits s.write) :
    Element.readAll false s.write
      = some [.primitive tagBitString (UInt8.ofNat s.writtenUnused :: s.octets)] := by
  rw [write_eq h] at hsize ⊢
  exact @Element.readAll_primitive tagBitString _ (by decide)
    (hsize.of_length_le (length_le_writePrimitive _ _)) rfl

/-- A bit string that is written is read again. -/
theorem Element.bitString?_primitive {bs : Bytes} {s : BitString} (h : bitStringOf? bs = some s) :
    (primitive tagBitString (UInt8.ofNat s.writtenUnused :: s.octets)).bitString?
      = some ⟨s.writtenUnused, s.octets⟩ := by
  rw [bitString?, isUniversal_primitive, if_pos rfl, bitStringContents?_primitive h]

end Primitive

section Sequences

/-! ### Sequences -/

variable {e part : Element} {items : List Element} {parts : List Bytes}

theorem Element.of_sequence? (h : e.sequence? = some items) :
    e.tag = ⟨.universal, tagSequence⟩ ∧ e.items = some items := by
  unfold sequence? at h
  split at h
  · rename_i hsequence
    exact ⟨by simpa [isUniversal] using hsequence.1, h⟩
  · cases h

theorem Element.isRead_of_sequence? (h : e.sequence? = some items) (hpart : part ∈ items) :
    part.IsRead :=
  isRead_of_mem (of_sequence? h).2 hpart

/-- A sequence that was read does not look like the end of contents. -/
theorem Element.IsRead.closes_of_sequence? (he : e.IsRead) (h : e.sequence? = some items) :
    closes e.raw = false := by
  rw [← Bool.not_eq_true]
  intro hcloses
  have htag := he.header.2.2 hcloses
  rw [(of_sequence? h).1] at htag
  exact absurd htag (by decide)

/-- A sequence that is written, as it is read again. -/
def Element.sequence (parts : List Bytes) : Element :=
  ⟨⟨.universal, tagSequence⟩, true, false,
    writeHeader ⟨.universal, tagSequence⟩ true parts.flatten.length, parts.flatten⟩

theorem Element.sequence?_sequence :
    (sequence parts).sequence? = readAll false parts.flatten := by
  rfl

theorem Element.read_sequence (hsize : Fits parts.flatten) (rest : Bytes) :
    read (writeSequence parts ++ rest) = some (sequence parts, rest) :=
  @read_write ⟨.universal, tagSequence⟩ (by decide) true parts.flatten hsize rest

theorem Element.isRead_sequence (hsize : Fits parts.flatten) : (sequence parts).IsRead :=
  ⟨_, [], read_sequence hsize []⟩

theorem closes_writeSequence (parts : List Bytes) : closes (writeSequence parts) = false := rfl

theorem Fits.contents_of_writeSequence (h : Fits (writeSequence parts)) : Fits parts.flatten := by
  refine h.of_length_le ?_
  simp only [writeSequence, write, List.length_append]
  exact Nat.le_add_left _ _

theorem Fits.part_of_writeSequence (h : Fits (writeSequence parts)) {part : Bytes}
    (hpart : part ∈ parts) : Fits part :=
  h.contents_of_writeSequence.of_length_le (List.sublist_flatten_of_mem hpart).length_le

end Sequences

namespace AnyValue

/-- A bit string as a value of any type is written with no bits set that are unused. -/
theorem ofElement?_bitString {bs : Bytes} {s : BitString} (h : bitStringOf? bs = some s) :
    ofElement? (Element.primitive tagBitString (UInt8.ofNat s.writtenUnused :: s.octets))
      = some (.universal tagBitString (UInt8.ofNat s.writtenUnused :: s.octets)) := by
  change (Element.bitStringContents? _).map _ = _
  rw [Element.bitStringContents?_primitive h, Option.map_some]
  change some (universal tagBitString (UInt8.ofNat
    (BitString.writtenUnused ⟨s.writtenUnused, s.octets⟩) :: s.octets)) = _
  rw [BitString.writtenUnused_written]

/-- A value that is read is kept octet for octet, which is never the case for universal number zero,
or it is one of a universal type, and read again from a primitive element with its contents. -/
theorem ofElement?_cases {e : Element} {v : AnyValue} (h : ofElement? e = some v) :
    v = verbatim e.raw ∧ e.tag ≠ ⟨.universal, 0⟩ ∨
      ∃ contents, v = universal e.tag.number contents ∧
        ofElement? (Element.primitive e.tag.number contents) = some v := by
  have hclass (number : Nat) (contents : Bytes) :
      ¬(Element.primitive number contents).tag.cls ≠ .universal := not_not.mpr rfl
  have htag (number : Nat) (contents : Bytes) :
      (Element.primitive number contents).tag.number = number := rfl
  unfold ofElement? at h
  split at h
  · rename_i hother
    cases h
    exact .inl ⟨rfl, fun heq => hother (congrArg Tag.cls heq)⟩
  split at h
  · rename_i hkept
    split at h
    · cases h
      refine .inl ⟨rfl, fun heq => ?_⟩
      rw [heq] at hkept
      exact absurd hkept (by decide)
    · cases h
  rename_i hkept
  split at h
  · rename_i hnull
    split at h
    · cases h
      rw [hnull]
      exact .inr ⟨[], rfl, rfl⟩
    · cases h
  rename_i hnull
  split at h
  · rename_i hboolean
    split at h
    · rename_i b _
      cases h
      rw [hboolean]
      exact .inr ⟨[b], rfl, rfl⟩
    · cases h
  rename_i hboolean
  split at h
  · rename_i hinteger
    obtain ⟨bs, hbs, rfl⟩ := Option.map_eq_some_iff.mp h
    refine .inr ⟨bs, rfl, ?_⟩
    rw [ofElement?, if_neg (hclass _ _), htag, if_neg hkept, if_neg hnull, if_neg hboolean,
      if_pos hinteger, Element.integerContents?_primitive (Element.isInteger_of_integerContents? hbs)]
    rfl
  rename_i hinteger
  split at h
  · rename_i hobject
    obtain ⟨bs, hbs, rfl⟩ := Option.map_eq_some_iff.mp h
    rw [hobject]
    refine .inr ⟨bs, rfl, ?_⟩
    change (Element.object? _).map _ = _
    rw [Element.object?_primitive (Element.isObject_of_object? hbs)]
    rfl
  rename_i hobject
  split at h
  · rename_i hbits
    obtain ⟨s, hs, rfl⟩ := Option.map_eq_some_iff.mp h
    obtain ⟨bs, hbs⟩ := Element.exists_of_bitStringContents? hs
    rw [hbits]
    exact .inr ⟨_, rfl, ofElement?_bitString hbs⟩
  rename_i hbits
  obtain ⟨bs, -, h⟩ := Option.bind_eq_some_iff.mp h
  split at h
  · rename_i hfits
    cases h
    refine .inr ⟨bs, rfl, ?_⟩
    rw [ofElement?, if_neg (hclass _ _), htag, if_neg hkept, if_neg hnull, if_neg hboolean,
      if_neg hinteger, if_neg hobject, if_neg hbits, Element.stringContents?_primitive]
    exact if_pos hfits
  · cases h

/-- A value that was read from an element. -/
def IsRead (v : AnyValue) : Prop :=
  ∃ e : Element, e.IsRead ∧ ofElement? e = some v

/-- The value that is written as the mark for the end of contents. -/
def endMark : AnyValue :=
  universal 0 []

/-- Nothing is read where contents of definite length begin with a mark for their end. -/
theorem readAll_endMark : Element.readAll false endMark.write = none := by
  change Element.readAll false [0, 0] = none
  rw [Element.readAll]
  rfl

/-- A value of a universal type looks like the end of contents only if it is empty and has number
zero. -/
theorem closes_writePrimitive {number : Nat} {contents : Bytes} (hnumber : number < 0x80000000)
    (hsize : Fits contents)
    (h : closes (writePrimitive number contents) = true) : number = 0 ∧ contents = [] := by
  have htag := (Element.isRead_primitive hnumber hsize).header.2.2 h
  obtain rfl : number = 0 := congrArg Tag.number htag
  refine ⟨rfl, ?_⟩
  by_contra hne
  obtain ⟨b, rest, hlength, hb⟩ := lengthOctets_of_pos (List.length_pos_iff.mpr hne) hsize
  change closes (0 :: (lengthOctets contents.length ++ contents)) = true at h
  rw [hlength] at h
  simp [closes, hb] at h

/-- A value that is not written as a mark for the end of contents is read again at their end. -/
theorem readAll_write {v : AnyValue} (h : v.IsRead) (hsize : Fits v.write) (hmark : v ≠ endMark) :
    ∃ e, Element.readAll false v.write = some [e] ∧ ofElement? e = some v := by
  obtain ⟨e, he, hv⟩ := h
  rcases ofElement?_cases hv with ⟨rfl, htag⟩ | ⟨contents, rfl, hagain⟩
  · have hopen : closes e.raw = false := by
      rw [← Bool.not_eq_true]
      exact fun hcloses => htag (he.header.2.2 hcloses)
    exact ⟨e, he.readAll_raw hopen, hv⟩
  · obtain ⟨-, hnumber, -⟩ := he.header
    have hcontents : Fits contents := hsize.of_length_le (length_le_writePrimitive _ _)
    have hopen : closes (writePrimitive e.tag.number contents) = false := by
      rw [← Bool.not_eq_true]
      intro hcloses
      obtain ⟨hzero, hempty⟩ := closes_writePrimitive hnumber hcontents hcloses
      rw [hzero, hempty] at hmark
      exact hmark rfl
    exact ⟨_, Element.readAll_primitive hnumber hcontents hopen, hagain⟩

end AnyValue

end PeerTrust.Asn1
