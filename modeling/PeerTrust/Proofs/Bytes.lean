import Mathlib.Data.List.Induction
import Mathlib.Tactic.Linarith
import Mathlib.Tactic.Ring
import PeerTrust.Bytes

/-!
# Octets and numbers

Octets are digits in base 256, most significant first. As many octets as a number needs spell it
without a zero in front, and octets are known by how many there are and the number they spell.
-/

namespace PeerTrust.Bytes

section Value

/-! ### The number of octets that stand together -/

theorem toNat_append_singleton (bs : Bytes) (b : UInt8) :
    toNat (bs ++ [b]) = toNat bs * 256 + b.toNat := by
  simp [toNat, List.foldl_append]

theorem toNat_append (as bs : Bytes) :
    toNat (as ++ bs) = toNat as * Nat.pow 256 bs.length + toNat bs := by
  induction bs using List.reverseRecOn with
  | nil => simp [toNat]
  | append_singleton bs last ih =>
    have hpow : Nat.pow 256 (bs.length + 1) = Nat.pow 256 bs.length * 256 := rfl
    rw [← List.append_assoc, toNat_append_singleton, toNat_append_singleton, ih,
      List.length_append, List.length_singleton, hpow]
    ring

theorem toNat_cons (b : UInt8) (bs : Bytes) :
    toNat (b :: bs) = b.toNat * Nat.pow 256 bs.length + toNat bs := by
  have hsingle : toNat [b] = b.toNat := Nat.zero_add _
  rw [← List.singleton_append, toNat_append, hsingle]

theorem toNat_lt (bs : Bytes) : toNat bs < Nat.pow 256 bs.length := by
  induction bs with
  | nil => exact Nat.one_pos
  | cons b bs ih =>
    have hb := b.toNat_lt
    have hpow : Nat.pow 256 (bs.length + 1) = 256 * Nat.pow 256 bs.length := Nat.mul_comm _ _
    rw [toNat_cons, List.length_cons, hpow]
    nlinarith

/-- The octets that are left out at the end are divided out of the number. -/
theorem toNat_take {bs : Bytes} {n : Nat} (h : n ≤ bs.length) :
    toNat (bs.take (bs.length - n)) = toNat bs / Nat.pow 256 n := by
  have hlength : (bs.drop (bs.length - n)).length = n := by
    rw [List.length_drop]
    omega
  have hrest := toNat_lt (bs.drop (bs.length - n))
  have hsum := toNat_append (bs.take (bs.length - n)) (bs.drop (bs.length - n))
  rw [List.take_append_drop, hlength] at hsum
  rw [hlength] at hrest
  have hpos : 0 < Nat.pow 256 n := Nat.pow_pos (by decide)
  rw [hsum, Nat.mul_comm, Nat.mul_add_div hpos, Nat.div_eq_of_lt hrest, Nat.add_zero]

end Value

section Spelling

/-! ### The octets of a number -/

/-- The last octets of a number spell what is left of it. -/
theorem toNat_ofNat (len n : Nat) : toNat (ofNat len n) = n % Nat.pow 256 len := by
  induction len generalizing n with
  | zero => exact (Nat.mod_one n).symm
  | succ len ih =>
    have hpow : Nat.pow 256 (len + 1) = 256 * Nat.pow 256 len := Nat.mul_comm _ _
    have hlast : (UInt8.ofNat n).toNat = n % 256 := UInt8.toNat_ofNat'
    rw [ofNat, toNat_append_singleton, ih, hlast, hpow, Nat.mod_mul]
    omega

/-- A number is spelled by as many octets as it needs. -/
theorem lt_pow_sizeOf (n : Nat) : n < Nat.pow 256 (sizeOf n) := by
  unfold sizeOf
  split
  · rename_i hzero
    rw [hzero]
    exact Nat.one_pos
  · calc n < Nat.pow 2 (n.log2 + 1) := Nat.lt_log2_self
      _ ≤ Nat.pow 2 (8 * (n.log2 / 8 + 1)) := Nat.pow_le_pow_right (by decide) (by omega)
      _ = Nat.pow 256 (n.log2 / 8 + 1) := Nat.pow_mul 2 8 _

/-- A number below a power of 256 needs no more octets than the exponent. -/
theorem sizeOf_le {n k : Nat} (h : n < Nat.pow 256 k) : sizeOf n ≤ k := by
  unfold sizeOf
  split
  · exact Nat.zero_le k
  · rename_i hzero
    have hpow : Nat.pow 2 (8 * k) = Nat.pow 256 k := Nat.pow_mul 2 8 k
    have hbits : n.log2 < 8 * k := (Nat.log2_lt hzero).mpr (Nat.lt_of_lt_of_eq h hpow.symm)
    omega

theorem sizeOf_mono {m n : Nat} (h : m ≤ n) : sizeOf m ≤ sizeOf n :=
  sizeOf_le (Nat.lt_of_le_of_lt h (lt_pow_sizeOf n))

theorem toNat_ofNatMinimal (n : Nat) : toNat (ofNatMinimal n) = n := by
  rw [ofNatMinimal, toNat_ofNat, Nat.mod_eq_of_lt (lt_pow_sizeOf n)]

/-- Octets are the spelling of their number in as many octets. -/
theorem ofNat_toNat (bs : Bytes) : ofNat bs.length (toNat bs) = bs := by
  induction bs using List.reverseRecOn with
  | nil => rfl
  | append_singleton bs last ih =>
    have hlast := last.toNat_lt
    have hquotient : (toNat bs * 256 + last.toNat) / 256 = toNat bs := by omega
    have hdigit : UInt8.ofNat (toNat bs * 256 + last.toNat) = last := by
      apply UInt8.toNat_inj.mp
      rw [UInt8.toNat_ofNat']
      omega
    rw [List.length_append, List.length_singleton, toNat_append_singleton, ofNat, hquotient, ih,
      hdigit]

theorem ofNat_toNat_of_length {bs : Bytes} {size : Nat} (h : bs.length = size) :
    ofNat size (toNat bs) = bs := by
  rw [← h, ofNat_toNat]

/-- Octets are known by their number, given how many there are. -/
theorem eq_of_toNat {as bs : Bytes} (hlength : as.length = bs.length)
    (h : toNat as = toNat bs) : as = bs := by
  rw [← ofNat_toNat_of_length hlength, h, ofNat_toNat]

/-- A number is not spelled with a zero in front. -/
theorem ofNatMinimal_ne_zero_cons (n : Nat) (bs : Bytes) : ofNatMinimal n ≠ 0 :: bs := by
  intro h
  have hvalue := toNat_ofNatMinimal n
  have hlength : sizeOf n = bs.length + 1 := by
    rw [← length_ofNat (sizeOf n) n, ← List.length_cons (a := (0 : UInt8)), ← h, ofNatMinimal]
  rw [h, toNat_cons] at hvalue
  have hsmall : n < Nat.pow 256 bs.length := by
    have := toNat_lt bs
    simp only [UInt8.toNat_zero, Nat.zero_mul, Nat.zero_add] at hvalue
    omega
  have := sizeOf_le hsmall
  omega

end Spelling

end PeerTrust.Bytes
