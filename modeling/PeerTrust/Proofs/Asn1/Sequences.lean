import Mathlib.Data.List.Induction
import Mathlib.Tactic.Linarith
import Mathlib.Tactic.Ring
import PeerTrust.Proofs.Asn1.Values

/-!
# Sequences and numbers that are written

A sequence is written around the octets of its items, which are read again as these items. Items
that are left out leave no octets. A number is written in two's complement with as few octets as it
takes, and read as itself, with or without regard to the sign.
-/

namespace PeerTrust

namespace Asn1

section Numbers

/-! ### Numbers in two's complement -/

/-- What the contents of a natural number are: they spell it, nothing in front is superfluous, and
the first bit says that there is no sign. -/
theorem naturalContents_spec (n : Nat) :
    isInteger (naturalContents n) = true ∧ Bytes.toNat (naturalContents n) = n
      ∧ ∃ b bs, naturalContents n = b :: bs ∧ b < 0x80 := by
  have hvalue := Bytes.toNat_ofNatMinimal n
  have hminimal := Bytes.ofNatMinimal_ne_zero_cons n
  unfold naturalContents
  split
  · rename_i hnil
    rw [hnil] at hvalue
    exact ⟨rfl, hvalue, 0, [], rfl, by decide⟩
  · rename_i b rest hcons
    rw [hcons] at hvalue
    have hb : b ≠ 0 := by
      rintro rfl
      exact hminimal rest hcons
    split
    · rename_i hsmall
      refine ⟨?_, hvalue, b, rest, rfl, hsmall⟩
      have hfull : b ≠ 0xFF := by
        rintro rfl
        exact absurd hsmall (by decide)
      cases rest with
      | nil => rfl
      | cons c rest => simp [isInteger, hb, hfull]
    · rename_i hlarge
      refine ⟨?_, ?_, 0, b :: rest, rfl, by decide⟩
      · simp only [isInteger, UInt8.not_lt] at hlarge ⊢
        simp [hlarge]
      · rw [Bytes.toNat_cons, hvalue]
        simp

theorem toNat_complement (b : UInt8) : (~~~b).toNat = 255 - b.toNat := by
  simp [UInt8.toNat_not]

theorem toNat_map_complement (bs : Bytes) :
    Bytes.toNat (bs.map (~~~·)) + Bytes.toNat bs + 1 = Nat.pow 256 bs.length := by
  induction bs with
  | nil => rfl
  | cons b bs ih =>
    have hb := b.toNat_lt
    have hpow : Nat.pow 256 (bs.length + 1) = 256 * Nat.pow 256 bs.length := Nat.mul_comm _ _
    have hsum : (255 - b.toNat) * Nat.pow 256 bs.length + b.toNat * Nat.pow 256 bs.length
        = 255 * Nat.pow 256 bs.length := by
      rw [← Nat.add_mul]
      congr 1
      omega
    rw [List.map_cons, Bytes.toNat_cons, Bytes.toNat_cons, toNat_complement, List.length_map,
      List.length_cons, hpow]
    omega

theorem complement_lt_iff {b : UInt8} : ~~~b < 0x80 ↔ ¬b < 0x80 := by
  have hb := b.toNat_lt
  simp only [UInt8.lt_iff_toNat_lt, toNat_complement, UInt8.reduceToNat]
  omega

theorem complement_eq_iff {b c : UInt8} : ~~~b = c ↔ b = ~~~c := by
  constructor
  · rintro rfl
    simp
  · rintro rfl
    simp

/-- The complement repeats its sign where the contents do. -/
theorem isInteger_map_complement (bs : Bytes) :
    isInteger (bs.map (~~~·)) = isInteger bs := by
  obtain _ | ⟨a, _ | ⟨b, bs⟩⟩ := bs
  · rfl
  · rfl
  · have hzero : (~~~a == 0) = (a == 0xFF) := by
      rw [Bool.eq_iff_iff, beq_iff_eq, beq_iff_eq, complement_eq_iff]
      rfl
    have hfull : (~~~a == 0xFF) = (a == 0) := by
      rw [Bool.eq_iff_iff, beq_iff_eq, beq_iff_eq, complement_eq_iff]
      rfl
    have hlow : decide (~~~b < 0x80) = decide (b ≥ 0x80) := by
      simp [complement_lt_iff]
    have hhigh : decide (~~~b ≥ 0x80) = decide (b < 0x80) := by
      simp only [ge_iff_le, ← UInt8.not_lt, complement_lt_iff, not_not]
    simp only [List.map_cons, isInteger, hzero, hfull, hlow, hhigh]
    exact Bool.and_comm _ _

/-- Integers are read as they were written. -/
theorem integerContents_spec (n : Int) :
    isInteger (integerContents n) = true ∧ integerValue (integerContents n) = n := by
  cases n with
  | ofNat n =>
    obtain ⟨hinteger, hvalue, b, bs, hcons, hsign⟩ := naturalContents_spec n
    refine ⟨hinteger, ?_⟩
    change integerValue (naturalContents n) = _
    rw [hcons] at hvalue ⊢
    rw [integerValue, if_pos hsign, hvalue]
    rfl
  | negSucc n =>
    obtain ⟨hinteger, hvalue, b, bs, hcons, hsign⟩ := naturalContents_spec n
    change isInteger ((naturalContents n).map (~~~·)) = true
      ∧ integerValue ((naturalContents n).map (~~~·)) = _
    refine ⟨by rw [isInteger_map_complement, hinteger], ?_⟩
    have hcomplement := toNat_map_complement (naturalContents n)
    rw [hvalue, hcons] at hcomplement
    rw [hcons, List.map_cons, integerValue, if_neg (by rw [complement_lt_iff, not_not]; exact hsign),
      ← List.map_cons (f := (~~~·)), List.length_map, ← hcomplement, Int.negSucc_eq]
    push_cast
    ring

end Numbers

namespace Element

variable {e : Element} {items : List Element} {parts : List Bytes}

section Items

/-! ### Items of a sequence -/

/-- An element as it is written: its length is spelled in the fewest octets, and its tag tells it
from the end of contents. -/
structure IsWritten (e : Element) : Prop where
  number : e.tag.number < 0x80000000
  notEnd : e.tag ≠ ⟨.universal, 0⟩
  definite : e.indefinite = false
  head : e.head = writeHeader e.tag e.constructed e.body.length

theorem fits_body (h : Fits e.raw) : Fits e.body := by
  refine h.of_length_le ?_
  rw [raw, List.length_append]
  omega

theorem fits_raw (h : Fits (items.flatMap raw)) (he : e ∈ items) : Fits e.raw :=
  h.of_length_le (List.sublist_flatten_of_mem (List.mem_map_of_mem he)).length_le

theorem IsWritten.read_raw (h : e.IsWritten) (hfits : Fits e.raw) (rest : Bytes) :
    read (e.raw ++ rest) = some (e, rest) := by
  have hbody := fits_body hfits
  obtain ⟨tag, constructed, indefinite, head, body⟩ := e
  obtain ⟨hnumber, -, hdefinite, hhead⟩ := h
  dsimp only at hnumber hdefinite hhead hbody
  subst hdefinite hhead
  exact read_write hnumber constructed hbody rest

theorem IsWritten.read_self (h : e.IsWritten) (hfits : Fits e.raw) :
    read e.raw = some (e, []) := by
  have hread := h.read_raw hfits []
  rwa [List.append_nil] at hread

/-- Items that are written one after the other are read one after the other. -/
theorem readAll_items (h : ∀ e ∈ items, e.IsWritten) (hfits : Fits (items.flatMap raw)) :
    readAll false (items.flatMap raw) = some items := by
  induction items with
  | nil =>
    rw [readAll]
    rfl
  | cons e rest ih =>
    obtain ⟨he, hrest⟩ := List.forall_mem_cons.mp h
    have hraw := fits_raw hfits List.mem_cons_self
    have hbehind : Fits (rest.flatMap raw) := by
      refine hfits.of_length_le ?_
      rw [List.flatMap_cons, List.length_append]
      omega
    have hisRead : e.IsRead := ⟨_, _, he.read_self hraw⟩
    have hopen : closes e.raw = false := by
      rw [← Bool.not_eq_true]
      exact fun hcloses => he.notEnd (hisRead.header.2.2 hcloses)
    rw [List.flatMap_cons, hisRead.readAll_append hopen false, ih hrest hbehind]
    rfl

/-- A sequence is read as the items that its parts are written for. -/
theorem sequence?_of_items (hparts : parts.flatten = items.flatMap raw)
    (h : ∀ e ∈ items, e.IsWritten) (hfits : Fits parts.flatten) :
    (sequence parts).sequence? = some items := by
  rw [sequence?_sequence, hparts]
  exact readAll_items h (hparts ▸ hfits)

theorem isWritten_sequence : (sequence parts).IsWritten :=
  ⟨show tagSequence < _ by decide, nofun, rfl, rfl⟩

@[simp] theorem raw_sequence : (sequence parts).raw = writeSequence parts := rfl

theorem isWritten_primitive {number : Nat} (hpos : 0 < number) (hnumber : number < 0x80000000)
    (contents : Bytes) : (primitive number contents).IsWritten := by
  refine ⟨hnumber, fun h => ?_, rfl, rfl⟩
  have hzero : number = 0 := congrArg Tag.number h
  omega

end Items

section Kinds

/-! ### Kinds of items -/

/-- An integer that is written. -/
def integer (n : Int) : Element :=
  primitive tagInteger (integerContents n)

@[simp] theorem raw_integer (n : Int) : (integer n).raw = writeInteger n := rfl

theorem raw_integer_natCast (n : Nat) : (integer n).raw = writeNatural n := rfl

theorem isWritten_integer (n : Int) : (integer n).IsWritten :=
  isWritten_primitive (by decide) (by decide) _

@[simp] theorem isUniversal_integer (n : Int) : (integer n).isUniversal tagInteger = true := rfl

@[simp] theorem integer?_integer (n : Int) : (integer n).integer? = some n := by
  obtain ⟨hinteger, hvalue⟩ := integerContents_spec n
  rw [integer?, integer, isUniversal_primitive, if_pos rfl, integerContents?_primitive hinteger,
    Option.map_some, hvalue]

@[simp] theorem unsigned?_integer (n : Nat) : (integer n).unsigned? = some n := by
  obtain ⟨-, hvalue, -⟩ := naturalContents_spec n
  rw [unsigned?, integer, isUniversal_primitive, if_pos rfl, plainContents?_primitive,
    Option.map_some]
  exact congrArg some hvalue

/-- An object identifier that is written. -/
def object (oid : Bytes) : Element :=
  primitive tagObject oid

@[simp] theorem raw_object (oid : Bytes) : (object oid).raw = writePrimitive tagObject oid := rfl

theorem isWritten_object (oid : Bytes) : (object oid).IsWritten :=
  isWritten_primitive (by decide) (by decide) _

/-- An octet string that is written. -/
def octets (contents : Bytes) : Element :=
  primitive tagOctetString contents

@[simp] theorem raw_octets (contents : Bytes) :
    (octets contents).raw = writePrimitive tagOctetString contents := rfl

theorem isWritten_octets (contents : Bytes) : (octets contents).IsWritten :=
  isWritten_primitive (by decide) (by decide) _

@[simp] theorem octetString?_octets (contents : Bytes) :
    (octets contents).octetString? = some contents := by
  rw [octetString?, octets, isUniversal_primitive, if_pos rfl, stringContents?_primitive]

theorem clearUnused_zero (bs : Bytes) : clearUnused 0 bs = bs := by
  rcases List.eq_nil_or_concat' bs with rfl | ⟨front, last, rfl⟩
  · rfl
  · rw [clearUnused_append_singleton]
    simp

/-- A bit string of whole octets that is written. -/
def bits (contents : Bytes) : Element :=
  primitive tagBitString (0 :: contents)

theorem raw_bits (contents : Bytes) : (bits contents).raw = BitString.write ⟨0, contents⟩ := by
  change writePrimitive _ _ = writePrimitive tagBitString
    (UInt8.ofNat (if contents.isEmpty then 0 else 0)
      :: clearUnused (if contents.isEmpty then 0 else 0) contents)
  rw [ite_self, clearUnused_zero]
  rfl

theorem isWritten_bits (contents : Bytes) : (bits contents).IsWritten :=
  isWritten_primitive (by decide) (by decide) _

@[simp] theorem bitString?_bits (contents : Bytes) :
    (bits contents).bitString? = some ⟨0, contents⟩ := by
  rw [bitString?, bits, isUniversal_primitive, if_pos rfl, bitStringContents?,
    stringContents?_primitive, Option.bind_some]
  have hread := @bitStringOf?_cons 0 (by decide) contents
  rwa [clearUnused_zero] at hread

/-- An element under a tag of its own that is written. -/
def tagged (number : Nat) (inner : Element) : Element :=
  ⟨⟨.contextual, number⟩, true, false, writeHeader ⟨.contextual, number⟩ true inner.raw.length,
    inner.raw⟩

@[simp] theorem raw_tagged (number : Nat) (inner : Element) :
    (tagged number inner).raw = write ⟨.contextual, number⟩ true inner.raw := rfl

theorem isWritten_tagged {number : Nat} (hnumber : number < 0x80000000) (inner : Element) :
    (tagged number inner).IsWritten :=
  ⟨hnumber, nofun, rfl, rfl⟩

@[simp] theorem isContextual_tagged (number other : Nat) (inner : Element) :
    (tagged number inner).isContextual other = decide (number = other) := by
  rw [Bool.eq_iff_iff]
  simp [tagged, isContextual]

theorem explicit?_tagged {number : Nat} {inner : Element} (h : inner.IsWritten)
    (hfits : Fits inner.raw) : (tagged number inner).explicit? = some inner := by
  have hitems : (tagged number inner).items = some [inner] := by
    have hread := @readAll_items [inner] (by simpa using h) (by simpa using hfits)
    rwa [List.flatMap_singleton] at hread
  rw [explicit?, hitems]
  rfl

end Kinds

end Element

end Asn1

end PeerTrust
