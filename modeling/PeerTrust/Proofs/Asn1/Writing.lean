import Mathlib.Data.List.Basic
import PeerTrust.Proofs.Asn1.Framing
import PeerTrust.Proofs.Bytes

/-!
# Elements that are written are read again

A header is written with its tag number and its length in as few octets as they take, and is read as
the tag and the length that it was written for. So is an element, whatever stands behind it, as long
as the length can be counted. An element that was read may stand in any contents again, unless it
looks like the end of them.
-/

namespace PeerTrust

namespace Asn1

section Header

/-! ### Headers -/

/-- The first octet of an element: class, form and five bits of the tag number. -/
def identifier (cls : TagClass) (constructed : Bool) (low : Nat) : UInt8 :=
  UInt8.ofNat (cls.bits + (if constructed then 0x20 else 0) + low)

variable (cls : TagClass) (constructed : Bool) {low : Nat}

theorem toNat_identifier (h : low < 32) :
    (identifier cls constructed low).toNat
      = cls.bits + (if constructed then 0x20 else 0) + low := by
  have hsum : cls.bits + (if constructed then 0x20 else 0) + low < 256 := by
    cases cls <;> cases constructed <;> simp [TagClass.bits] <;> omega
  rw [identifier, UInt8.toNat_ofNat_of_lt' hsum]

theorem ofOctet_identifier (h : low < 32) :
    TagClass.ofOctet (identifier cls constructed low) = cls := by
  have hvalue := toNat_identifier cls constructed h
  have hflag : (if constructed then 0x20 else 0) ≤ 0x20 := by
    cases constructed <;> decide
  unfold TagClass.ofOctet
  simp only [UInt8.lt_iff_toNat_lt, UInt8.reduceToNat, hvalue]
  cases cls with
  | universal => rw [if_pos (by simp only [TagClass.bits]; omega)]
  | application =>
    rw [if_neg (by simp only [TagClass.bits]; omega), if_pos (by simp only [TagClass.bits]; omega)]
  | contextual =>
    rw [if_neg (by simp only [TagClass.bits]; omega), if_neg (by simp only [TagClass.bits]; omega),
      if_pos (by simp only [TagClass.bits]; omega)]
  | owned =>
    rw [if_neg (by simp only [TagClass.bits]; omega), if_neg (by simp only [TagClass.bits]; omega),
      if_neg (by simp only [TagClass.bits]; omega)]

theorem isConstructed_identifier (h : low < 32) :
    isConstructed (identifier cls constructed low) = constructed := by
  unfold isConstructed
  rw [toNat_identifier cls constructed h]
  cases cls <;> cases constructed <;> simp [TagClass.bits] <;> omega

theorem identifier_mod (h : low < 32) : (identifier cls constructed low).toNat % 32 = low := by
  rw [toNat_identifier cls constructed h]
  cases cls <;> cases constructed <;> simp [TagClass.bits] <;> omega

/-- Digits in base 128 with the mark that more follow on all but the last. -/
def marked (digits : List Nat) : Bytes :=
  digits.zipIdx.map fun (d, i) => UInt8.ofNat (if i + 1 = digits.length then d else d + 128)

theorem marked_cons (d : Nat) {digits : List Nat} (h : digits ≠ []) :
    marked (d :: digits) = UInt8.ofNat (d + 128) :: marked digits := by
  have hlength : 0 < digits.length := List.length_pos_iff.mpr h
  unfold marked
  rw [List.zipIdx_cons, List.map_cons, List.zipIdx_succ, List.map_map]
  congr 1
  · simp only [List.length_cons]
    rw [if_neg (by omega)]
  · apply List.map_congr_left
    intro p _
    simp only [Function.comp_apply, List.length_cons, Nat.add_right_cancel_iff]

/-- The number that digits in base 128 go on to spell. -/
def spelled (value : Nat) (digits : List Nat) : Nat :=
  digits.foldl (fun n d => n * 128 + d) value

theorem le_spelled {value : Nat} {digits : List Nat} : value ≤ spelled value digits := by
  induction digits generalizing value with
  | nil => exact Nat.le_refl _
  | cons d digits ih =>
    have hstep : value ≤ value * 128 + d := by omega
    exact Nat.le_trans hstep ih

theorem readNumber_last (value : Nat) {d : Nat} (h : d < 128) (rest : Bytes) :
    readNumber value (UInt8.ofNat d :: rest) = some (value * 128 + d, rest) := by
  have hd : (UInt8.ofNat d).toNat = d := UInt8.toNat_ofNat_of_lt' (Nat.lt_trans h (by decide))
  have hlast : UInt8.ofNat d < 0x80 := by
    rw [UInt8.lt_iff_toNat_lt, hd]
    exact h
  rw [readNumber, if_pos hlast, hd]

theorem readNumber_more {value d : Nat} (h : d < 128) (hsize : value * 128 + d < 0x1000000)
    (rest : Bytes) :
    readNumber value (UInt8.ofNat (d + 128) :: rest) = readNumber (value * 128 + d) rest := by
  have hd : (UInt8.ofNat (d + 128)).toNat = d + 128 :=
    UInt8.toNat_ofNat_of_lt' (Nat.add_lt_add_right h 128)
  have hmore : ¬UInt8.ofNat (d + 128) < 0x80 := by
    rw [UInt8.lt_iff_toNat_lt, hd, Nat.not_lt]
    exact Nat.le_add_left _ _
  rw [readNumber, if_neg hmore, hd, Nat.add_sub_cancel]
  exact if_pos hsize

/-- Digits that are marked are read to the last one. -/
theorem readNumber_marked {value : Nat} {digits : List Nat} (hne : digits ≠ [])
    (hdigits : ∀ d ∈ digits, d < 128) (hsize : spelled value digits < 0x80000000) (rest : Bytes) :
    readNumber value (marked digits ++ rest) = some (spelled value digits, rest) := by
  induction digits generalizing value with
  | nil => exact absurd rfl hne
  | cons d digits ih =>
    have hd : d < 128 := hdigits d List.mem_cons_self
    have hrest (e : Nat) (he : e ∈ digits) : e < 128 := hdigits e (List.mem_cons_of_mem _ he)
    cases digits with
    | nil => exact readNumber_last value hd rest
    | cons e digits =>
      have hnext : (value * 128 + d) * 128 + e ≤ spelled value (d :: e :: digits) := le_spelled
      rw [marked_cons d (List.cons_ne_nil _ _), List.cons_append,
        readNumber_more hd (by omega), ih (List.cons_ne_nil _ _) hrest hsize]
      rfl

/-- The digits that `writeHeader` writes, zeros in front included. -/
def fiveDigits (n : Nat) : List Nat :=
  (List.range 5).map fun i => n / Nat.pow 128 (4 - i) % 128

theorem spelled_fiveDigits {n : Nat} (h : n < 0x80000000) : spelled 0 (fiveDigits n) = n := by
  change ((((0 * 128 + n / 0x10000000 % 128) * 128 + n / 0x200000 % 128) * 128
    + n / 0x4000 % 128) * 128 + n / 0x80 % 128) * 128 + n / 1 % 128 = n
  omega

theorem spelled_dropWhile_zero (digits : List Nat) :
    spelled 0 (digits.dropWhile (· = 0)) = spelled 0 digits := by
  induction digits with
  | nil => rfl
  | cons d digits ih =>
    by_cases hd : d = 0
    · subst hd
      exact ih
    · rw [List.dropWhile_cons_of_neg (by simpa using hd)]

/-- A tag number that is written is read again. -/
theorem readNumber_base128 {n : Nat} (hpos : 0 < n) (h : n < 0x80000000) (rest : Bytes) :
    readNumber 0 (writeHeader.base128 n ++ rest) = some (n, rest) := by
  have hvalue : spelled 0 ((fiveDigits n).dropWhile (· = 0)) = n := by
    rw [spelled_dropWhile_zero, spelled_fiveDigits h]
  have hne : (fiveDigits n).dropWhile (· = 0) ≠ [] := by
    intro hnil
    rw [hnil] at hvalue
    exact absurd hvalue (Nat.ne_of_lt hpos)
  have hdigits : ∀ d ∈ (fiveDigits n).dropWhile (· = 0), d < 128 := by
    intro d hd
    obtain ⟨i, -, rfl⟩ := List.mem_map.mp ((List.dropWhile_suffix _).subset hd)
    exact Nat.mod_lt _ (by decide)
  have hread := readNumber_marked hne hdigits (by rwa [hvalue]) rest
  rwa [hvalue] at hread

/-- The octets that spell a length. -/
def lengthOctets (n : Nat) : Bytes :=
  if n < 128 then [UInt8.ofNat n]
  else UInt8.ofNat (128 + (Bytes.ofNatMinimal n).length) :: Bytes.ofNatMinimal n

/-- The octets of a tag: its number stands in the first one, or behind it. -/
def tagOctets (tag : Tag) (constructed : Bool) : Bytes :=
  if tag.number < 31 then [identifier tag.cls constructed tag.number]
  else identifier tag.cls constructed 31 :: writeHeader.base128 tag.number

theorem writeHeader_eq (tag : Tag) (constructed : Bool) (n : Nat) :
    writeHeader tag constructed n = tagOctets tag constructed ++ lengthOctets n := rfl

theorem length_ofNatMinimal (n : Nat) : (Bytes.ofNatMinimal n).length = Bytes.sizeOf n :=
  Bytes.length_ofNat _ _

/-- A length that is not zero does not begin with a zero. -/
theorem lengthOctets_of_pos {n : Nat} (hpos : 0 < n) (hsize : Bytes.sizeOf n < 128) :
    ∃ b rest, lengthOctets n = b :: rest ∧ b ≠ 0 := by
  have hne {m : Nat} (hm : 0 < m) (hsmall : m < 256) : UInt8.ofNat m ≠ 0 := by
    intro hzero
    have hvalue : (UInt8.ofNat m).toNat = 0 := congrArg UInt8.toNat hzero
    rw [UInt8.toNat_ofNat_of_lt' hsmall] at hvalue
    omega
  unfold lengthOctets
  split
  · exact ⟨_, [], rfl, hne hpos (by omega)⟩
  · refine ⟨_, _, rfl, hne (by omega) ?_⟩
    rw [length_ofNatMinimal]
    omega

/-- A length is read again, if it is spelled in fewer than 128 octets. -/
theorem readLength_lengthOctets {n : Nat} (hsize : Bytes.sizeOf n < 128) (rest : Bytes) :
    readLength (lengthOctets n ++ rest) = some (some n, rest) := by
  unfold lengthOctets
  split
  · rename_i hshort
    have hvalue : (UInt8.ofNat n).toNat = n :=
      UInt8.toNat_ofNat_of_lt' (Nat.lt_trans hshort (by decide))
    rw [List.singleton_append, readLength, if_pos, hvalue]
    rw [UInt8.lt_iff_toNat_lt, hvalue]
    exact hshort
  · rename_i hlong
    have hpos : 0 < Bytes.sizeOf n := by
      rw [Bytes.sizeOf, if_neg (by omega)]
      exact Nat.succ_pos _
    have hcount : (UInt8.ofNat (128 + Bytes.sizeOf n)).toNat = 128 + Bytes.sizeOf n :=
      UInt8.toNat_ofNat_of_lt' (Nat.add_lt_add_left hsize 128)
    have hnotShort : ¬UInt8.ofNat (128 + Bytes.sizeOf n) < 0x80 := by
      rw [UInt8.lt_iff_toNat_lt, hcount, Nat.not_lt]
      exact Nat.le_add_right _ _
    have hdefinite : UInt8.ofNat (128 + Bytes.sizeOf n) ≠ 0x80 := by
      intro heq
      have hvalue : 128 + Bytes.sizeOf n = 128 := hcount.symm.trans (congrArg UInt8.toNat heq)
      omega
    have hroom : ¬(Bytes.ofNatMinimal n ++ rest).length < Bytes.sizeOf n := by
      rw [List.length_append, length_ofNatMinimal]
      omega
    rw [length_ofNatMinimal, List.cons_append, readLength, if_neg hnotShort, if_neg hdefinite]
    dsimp only
    rw [hcount, Nat.add_sub_cancel_left, if_neg hroom,
      List.take_left' (length_ofNatMinimal n), List.drop_left' (length_ofNatMinimal n),
      Bytes.toNat_ofNatMinimal]

theorem readTagNumber_tagOctets {tag : Tag} (htag : tag.number < 0x80000000)
    (constructed : Bool) :
    ∃ first behind, tagOctets tag constructed = first :: behind
      ∧ TagClass.ofOctet first = tag.cls ∧ isConstructed first = constructed
      ∧ ∀ rest, readTagNumber first (behind ++ rest) = some (tag.number, rest) := by
  unfold tagOctets
  split
  · rename_i hshort
    have hlow : tag.number < 32 := by omega
    refine ⟨_, [], rfl, ofOctet_identifier _ _ hlow, isConstructed_identifier _ _ hlow, ?_⟩
    intro rest
    rw [readTagNumber, identifier_mod _ _ hlow, if_neg (by omega), List.nil_append]
  · rename_i hlong
    have hlow : 31 < 32 := by decide
    refine ⟨_, _, rfl, ofOctet_identifier _ _ hlow, isConstructed_identifier _ _ hlow, ?_⟩
    intro rest
    rw [readTagNumber, identifier_mod _ _ hlow, if_pos rfl, readNumber_base128 (by omega) htag]

/-- A header that is written is read again. -/
theorem Header.read_writeHeader {tag : Tag} (htag : tag.number < 0x80000000)
    (constructed : Bool) {n : Nat} (hsize : Bytes.sizeOf n < 128) (rest : Bytes) :
    Header.read (writeHeader tag constructed n ++ rest)
      = some (⟨tag, constructed, some n⟩, rest) := by
  obtain ⟨first, behind, hoctets, hclass, hform, hnumber⟩ :=
    readTagNumber_tagOctets htag constructed
  rw [writeHeader_eq, hoctets, List.cons_append, List.cons_append, List.append_assoc, Header.read,
    hnumber]
  dsimp only
  rw [readLength_lengthOctets hsize]
  dsimp only
  rw [Option.isSome_some, Bool.true_or, if_pos rfl, hclass, hform]

/-- A number in base 128 that is read has at most 31 bits. -/
theorem readNumber_lt {value n : Nat} {bs rest : Bytes} (hvalue : value < 0x1000000)
    (h : readNumber value bs = some (n, rest)) : n < 0x80000000 := by
  induction bs generalizing value with
  | nil => cases h
  | cons b bs ih =>
    rw [readNumber] at h
    split at h
    · rename_i hlast
      have hb : b.toNat < 128 := UInt8.lt_iff_toNat_lt.mp hlast
      simp only [Option.some.injEq, Prod.mk.injEq] at h
      omega
    · dsimp only at h
      split at h
      · rename_i hsmall
        exact ih hsmall h
      · cases h

/-- What a header that is read has from its first octet. -/
theorem Header.tag_of_read {bs rest : Bytes} {header : Header}
    (h : Header.read bs = some (header, rest)) :
    ∃ b behind after, bs = b :: behind ∧ header.tag.cls = TagClass.ofOctet b ∧
      readTagNumber b behind = some (header.tag.number, after) := by
  cases bs with
  | nil => cases h
  | cons b behind =>
    rw [Header.read] at h
    split at h
    · cases h
    · rename_i number after hnumber
      split at h
      · cases h
      · split at h
        · cases h
          exact ⟨b, behind, after, rfl, rfl, hnumber⟩
        · cases h

theorem Header.number_lt {bs rest : Bytes} {header : Header}
    (h : Header.read bs = some (header, rest)) : header.tag.number < 0x80000000 := by
  obtain ⟨b, behind, after, -, -, hnumber⟩ := tag_of_read h
  unfold readTagNumber at hnumber
  split at hnumber
  · exact readNumber_lt (by decide) hnumber
  · simp only [Option.some.injEq, Prod.mk.injEq] at hnumber
    omega

/-- Two zeros begin an element of universal number zero. -/
theorem Header.tag_of_closes {bs rest : Bytes} {header : Header}
    (h : Header.read bs = some (header, rest)) (hcloses : closes bs = true) :
    header.tag = ⟨.universal, 0⟩ := by
  obtain ⟨b, behind, after, rfl, hclass, hnumber⟩ := tag_of_read h
  unfold closes at hcloses
  split at hcloses
  · rename_i hzeros
    obtain ⟨rfl, -⟩ := List.cons.inj hzeros
    have hzero : 0 = header.tag.number := congrArg Prod.fst (Option.some.inj hnumber)
    obtain ⟨⟨cls, number⟩, constructed, length⟩ := header
    cases hclass
    cases hzero
    rfl
  · cases hcloses

end Header

/-- Contents whose length can be written: it takes fewer octets than can be counted in seven
bits. -/
def Fits (contents : Bytes) : Prop :=
  Bytes.sizeOf contents.length < 128

/-- What is not longer than contents that fit does too. -/
theorem Fits.of_length_le {part whole : Bytes} (h : Fits whole)
    (hle : part.length ≤ whole.length) : Fits part :=
  Nat.lt_of_le_of_lt (Bytes.sizeOf_mono hle) h

/-- What is written within the limit fits. -/
theorem fits_of_lt_writtenLimit {contents : Bytes}
    (h : contents.length < Bytes.writtenLimit) : Fits contents :=
  Nat.lt_of_le_of_lt (Bytes.sizeOf_le (k := 4) (Nat.lt_trans h (by decide))) (by decide)

namespace Element

/-- An element that is written is read again, whatever stands behind it. -/
theorem read_write {tag : Tag} (htag : tag.number < 0x80000000) (constructed : Bool)
    {contents : Bytes} (hsize : Fits contents) (rest : Bytes) :
    read (write tag constructed contents ++ rest) =
      some (⟨tag, constructed, false, writeHeader tag constructed contents.length, contents⟩,
        rest) := by
  have hfits : contents.length ≤ (contents ++ rest).length := by
    rw [List.length_append]
    exact Nat.le_add_right _ _
  rw [write, List.append_assoc, read, Header.read_writeHeader htag constructed hsize]
  dsimp only
  rw [contentsSize, if_pos hfits]
  dsimp only
  rw [length_append_sub, List.take_left, List.take_left, List.drop_left]
  rfl

/-- An element that was read from octets. -/
def IsRead (e : Element) : Prop :=
  ∃ bs rest, read bs = some (e, rest)

variable {e : Element}

theorem IsRead.frames (h : e.IsRead) : Frames read e.raw e := by
  obtain ⟨bs, rest, hread⟩ := h
  exact (read_frames hread).2

/-- An element takes at least the two octets of its header, and its tag is told by them: the number
has at most 31 bits, and only an element of universal number zero looks like the end of contents. -/
theorem IsRead.header (h : e.IsRead) :
    2 ≤ e.raw.length ∧ e.tag.number < 0x80000000 ∧
      (closes e.raw = true → e.tag = ⟨.universal, 0⟩) := by
  have hread := h.frames []
  unfold read at hread
  split at hread
  · cases hread
  · rename_i header behind hheader
    split at hread
    · cases hread
    · obtain ⟨octets, hlong, hoctets, -⟩ := Header.read_frames hheader
      simp only [Option.some.injEq, Prod.mk.injEq] at hread
      obtain ⟨helement, -⟩ := hread
      have htag : header.tag = e.tag := congrArg Element.tag helement
      have hhead : octets = e.head := by
        rw [← helement, hoctets, length_append_sub, List.take_left]
      have hlength : 2 ≤ e.raw.length := by
        rw [raw, List.length_append, ← hhead]
        omega
      rw [← htag]
      refine ⟨hlength, Header.number_lt hheader, fun hcloses => ?_⟩
      rw [← closes_append hlength []] at hcloses
      exact Header.tag_of_closes hheader hcloses

/-- All elements that contents hold were read. -/
theorem isRead_of_mem {indefinite : Bool} {bs : Bytes} {items : List Element}
    (h : readAll indefinite bs = some items) (he : e ∈ items) : e.IsRead := by
  fun_induction readAll indefinite bs generalizing items with
  | case1 =>
    cases h
    cases he
  | case2 => cases h
  | case3 => cases h
  | case4 =>
    cases h
    cases he
  | case5 => cases h
  | case6 bs hopen hne first rest hread ih =>
    obtain ⟨others, hothers, rfl⟩ := Option.map_eq_some_iff.mp h
    rcases List.mem_cons.mp he with rfl | he
    · exact ⟨_, _, hread⟩
    · exact ih hothers he

/-- Contents begin with an element that does not look like the end of them. -/
theorem IsRead.readAll_append (h : e.IsRead) (hopen : closes e.raw = false) (indefinite : Bool)
    (more : Bytes) :
    readAll indefinite (e.raw ++ more) = (readAll indefinite more).map (e :: ·) := by
  have hne : (e.raw ++ more).isEmpty = false := by
    have hlength := h.header.1
    rw [List.isEmpty_eq_false_iff, ← List.length_pos_iff, List.length_append]
    omega
  have hopen' : closes (e.raw ++ more) = false := by
    rw [closes_append h.header.1, hopen]
  rw [readAll, hopen', hne]
  simp only [Bool.false_eq_true, if_false]
  split
  · rename_i hnone
    rw [h.frames more] at hnone
    cases hnone
  · rename_i e' rest hread
    rw [h.frames more] at hread
    cases hread
    rfl

/-- Contents end with an element that does not look like the end of them. -/
theorem IsRead.readAll_raw (h : e.IsRead) (hopen : closes e.raw = false) :
    readAll false e.raw = some [e] := by
  have hread := h.readAll_append hopen false []
  rw [List.append_nil] at hread
  rw [hread, readAll]
  rfl

end Element

end Asn1
end PeerTrust
