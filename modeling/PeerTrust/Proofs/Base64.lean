import Mathlib.Data.List.TakeWhile
import PeerTrust.Base64

/-!
# Base64 that is written and read again

Both readers give back every octet string that is written: three octets make four digits, and the
padding at the end says how many of the last octets are there to fill up only. The reader of
armoured bodies does so however the digits are spread over lines.
-/

namespace PeerTrust

/-- A text without blanks has none to be trimmed. -/
theorem Text.trim_of_not_blank {text : List Char} (h : ∀ c ∈ text, isBlank c = false) :
    trim text = text := by
  have hdrop {text : List Char} (htext : ∀ c ∈ text, isBlank c = false) :
      text.dropWhile isBlank = text := by
    cases text with
    | nil => rfl
    | cons c rest =>
      exact List.dropWhile_cons_of_neg (by simp [htext c List.mem_cons_self])
  rw [trim, hdrop h, dropEndWhile, hdrop fun c hc => h c (List.mem_reverse.mp hc),
    List.reverse_reverse]

namespace Base64

section Alphabet

/-! ### The alphabet -/

/-- Digits are read as their values. -/
theorem value?_symbol {n : Nat} (h : n < 64) : value? (symbol n) = some n := by
  revert n
  decide

/-- A character that no reader skips or stops at. -/
structure Inert (c : Char) : Prop where
  ne_dash : c ≠ '-'
  ne_colon : c ≠ ':'
  notGap : isGap c = false
  notBlank : Text.isBlank c = false
  graphic : 0x20 < c.toNat ∧ c.toNat < 0x7F

theorem inert_symbol {n : Nat} (h : n < 64) : Inert (symbol n) := by
  have hall : ∀ n < 64, symbol n ≠ '-' ∧ symbol n ≠ ':' ∧ isGap (symbol n) = false
      ∧ Text.isBlank (symbol n) = false ∧ 0x20 < (symbol n).toNat ∧ (symbol n).toNat < 0x7F := by
    decide
  obtain ⟨hdash, hcolon, hgap, hblank, hgraphic⟩ := hall n h
  exact ⟨hdash, hcolon, hgap, hblank, hgraphic⟩

theorem inert_padding : Inert '=' :=
  ⟨by decide, by decide, by decide, by decide, by decide⟩

theorem symbol_ne_padding {n : Nat} (h : n < 64) : symbol n ≠ '=' := by
  revert n
  decide

theorem lenientValue?_symbol {n : Nat} (h : n < 64) : lenientValue? (symbol n) = some n := by
  rw [lenientValue?, if_neg (symbol_ne_padding h), value?_symbol h]

theorem lenientValue?_padding : lenientValue? '=' = some 0 := rfl

end Alphabet

section Text

/-! ### The text of an octet string -/

/-- The digits of an octet string, without the padding. -/
def digits : Bytes → List Char
  | [] => []
  | [a] => [symbol (a.toNat / 4), symbol (a.toNat % 4 * 16)]
  | [a, b] =>
    [symbol (a.toNat / 4), symbol (a.toNat % 4 * 16 + b.toNat / 16), symbol (b.toNat % 16 * 4)]
  | a :: b :: c :: rest =>
    symbol (a.toNat / 4) :: symbol (a.toNat % 4 * 16 + b.toNat / 16)
      :: symbol (b.toNat % 16 * 4 + c.toNat / 64) :: symbol (c.toNat % 64) :: digits rest

/-- How many octets an octet string is short of a multiple of three. -/
def lack (bs : Bytes) : Nat :=
  (3 - bs.length % 3) % 3

theorem lack_cons (a b c : UInt8) (rest : Bytes) : lack (a :: b :: c :: rest) = lack rest := by
  simp only [lack, List.length_cons]
  omega

/-- Text is the digits and a padding for each octet that is lacking. -/
theorem encode_eq (bs : Bytes) : encode bs = digits bs ++ List.replicate (lack bs) '=' := by
  fun_induction encode bs with
  | case1 | case2 | case3 => rfl
  | case4 a b c rest ih => rw [lack_cons, ih, digits]; rfl

theorem exists_of_mem_digits {bs : Bytes} {c : Char} (h : c ∈ digits bs) :
    ∃ n < 64, c = symbol n := by
  fun_induction digits bs with
  | case1 => cases h
  | case2 a =>
    have ha := a.toNat_lt
    simp only [List.mem_cons, List.not_mem_nil, or_false] at h
    rcases h with rfl | rfl <;> exact ⟨_, by omega, rfl⟩
  | case3 a b =>
    have ha := a.toNat_lt
    have hb := b.toNat_lt
    simp only [List.mem_cons, List.not_mem_nil, or_false] at h
    rcases h with rfl | rfl | rfl <;> exact ⟨_, by omega, rfl⟩
  | case4 a b c rest ih =>
    have ha := a.toNat_lt
    have hb := b.toNat_lt
    have hc := c.toNat_lt
    simp only [List.mem_cons] at h
    rcases h with rfl | rfl | rfl | rfl | h
    · exact ⟨_, by omega, rfl⟩
    · exact ⟨_, by omega, rfl⟩
    · exact ⟨_, by omega, rfl⟩
    · exact ⟨_, by omega, rfl⟩
    · exact ih h

theorem padding_not_mem_digits (bs : Bytes) : '=' ∉ digits bs := by
  intro h
  obtain ⟨n, hn, heq⟩ := exists_of_mem_digits h
  exact symbol_ne_padding hn heq.symm

theorem inert_of_mem_encode {bs : Bytes} {c : Char} (h : c ∈ encode bs) : Inert c := by
  rw [encode_eq, List.mem_append] at h
  rcases h with h | h
  · obtain ⟨n, hn, rfl⟩ := exists_of_mem_digits h
    exact inert_symbol hn
  · rw [List.eq_of_mem_replicate h]
    exact inert_padding

/-- Four characters are written for every three octets begun. -/
theorem length_encode (bs : Bytes) : (encode bs).length = 4 * ((bs.length + 2) / 3) := by
  fun_induction encode bs with
  | case1 | case2 | case3 => simp
  | case4 a b c rest ih =>
    simp only [List.length_cons, ih]
    omega

end Text

section Reading

/-! ### Reading it again -/

variable (bs : Bytes)

/-- Four digits are read as three octets. -/
theorem decodeQuads_cons {c₀ c₁ c₂ c₃ : Char} {m n k l : Nat} (h₀ : lenientValue? c₀ = some m)
    (h₁ : lenientValue? c₁ = some n) (h₂ : lenientValue? c₂ = some k)
    (h₃ : lenientValue? c₃ = some l) {x y z : UInt8} (hx : m * 4 + n / 16 = x.toNat)
    (hy : n % 16 * 16 + k / 4 = y.toNat) (hz : k % 4 * 64 + l = z.toNat) (text : List Char) :
    decodeQuads lenientValue? (c₀ :: c₁ :: c₂ :: c₃ :: text)
      = (decodeQuads lenientValue? text).map fun out => x :: y :: z :: out := by
  rw [decodeQuads, h₀, h₁, h₂, h₃]
  change (decodeQuads lenientValue? text).bind (fun out => some (UInt8.ofNat (m * 4 + n / 16)
    :: UInt8.ofNat (n % 16 * 16 + k / 4) :: UInt8.ofNat (k % 4 * 64 + l) :: out)) = _
  rw [hx, hy, hz, UInt8.ofNat_toNat, UInt8.ofNat_toNat, UInt8.ofNat_toNat, Option.map_eq_bind]
  rfl

/-- The octets are read again, and a zero for each one that was lacking. -/
theorem decodeQuads_encode :
    decodeQuads lenientValue? (encode bs) = some (bs ++ List.replicate (lack bs) 0) := by
  fun_induction encode bs with
  | case1 => rfl
  | case2 a =>
    have ha := a.toNat_lt
    exact @decodeQuads_cons _ _ _ _ _ _ _ _ (lenientValue?_symbol (by omega))
      (lenientValue?_symbol (by omega)) lenientValue?_padding lenientValue?_padding a 0 0
      (by omega) (by simp) rfl []
  | case3 a b =>
    have ha := a.toNat_lt
    have hb := b.toNat_lt
    exact @decodeQuads_cons _ _ _ _ _ _ _ _ (lenientValue?_symbol (by omega))
      (lenientValue?_symbol (by omega)) (lenientValue?_symbol (by omega)) lenientValue?_padding
      a b 0 (by omega) (by omega) (by simp) []
  | case4 a b c rest ih =>
    have ha := a.toNat_lt
    have hb := b.toNat_lt
    have hc := c.toNat_lt
    rw [@decodeQuads_cons _ _ _ _ _ _ _ _ (lenientValue?_symbol (by omega))
      (lenientValue?_symbol (by omega)) (lenientValue?_symbol (by omega))
      (lenientValue?_symbol (by omega)) a b c (by omega) (by omega) (by omega), ih, lack_cons]
    rfl

theorem take_decoded :
    (bs ++ List.replicate (lack bs) (0 : UInt8)).take
      ((bs ++ List.replicate (lack bs) (0 : UInt8)).length - lack bs) = bs := by
  rw [List.length_append, List.length_replicate, Nat.add_sub_cancel, List.take_left]

theorem paddingOf_append {text : List Char} (hlast : text.getLast? ≠ some '=') {n : Nat}
    (hfew : n < 3) : paddingOf (text ++ List.replicate n '=') = n := by
  rcases List.eq_nil_or_concat text with rfl | ⟨front, c, rfl⟩
  · obtain rfl | rfl | rfl : n = 0 ∨ n = 1 ∨ n = 2 := by omega
    all_goals rfl
  · have hc : c ≠ '=' := by simpa using hlast
    obtain rfl | rfl | rfl : n = 0 ∨ n = 1 ∨ n = 2 := by omega
    all_goals simp [paddingOf, hc]

theorem lack_lt : lack bs < 3 :=
  Nat.mod_lt _ (by decide)

/-- The padding at the end of a text is what is lacking. -/
theorem paddingOf_encode : paddingOf (encode bs) = lack bs := by
  rw [encode_eq]
  refine paddingOf_append (fun hlast => ?_) (lack_lt bs)
  exact padding_not_mem_digits bs (List.mem_of_getLast? hlast)

/-- Nothing that may follow the digits of an unbroken text follows those of one that is written. -/
theorem dropTrailing_encode : dropTrailing (encode bs).reverse = (encode bs).reverse := by
  cases hrev : (encode bs).reverse with
  | nil => rfl
  | cons c rest =>
    have hc : c ∈ encode bs := by
      rw [← List.mem_reverse, hrev]
      exact List.mem_cons_self
    have hinert := inert_of_mem_encode hc
    have hstays : ¬(isGap c = true ∨ c = '-') := by
      simp [hinert.notGap, hinert.ne_dash]
    rw [dropTrailing, if_neg fun h => hstays h.2]

/-- Unbroken text is read as the octets that it was written for. -/
theorem decodeBlock_encode : decodeBlock (encode bs) = some bs := by
  rw [decodeBlock, Text.trim_of_not_blank fun c hc => (inert_of_mem_encode hc).notBlank]
  dsimp only
  split
  · rename_i hempty
    have hlength := length_encode bs
    rw [List.isEmpty_iff.mp hempty, List.length_nil] at hlength
    have hnil : bs.length = 0 := by omega
    rw [List.length_eq_zero_iff.mp hnil]
  · have hwhole : ¬(encode bs).length % 4 ≠ 0 := by
      rw [length_encode]
      omega
    rw [dropTrailing_encode, List.reverse_reverse, if_neg hwhole, decodeQuads_encode,
      paddingOf_encode, Option.map_some, take_decoded]

/-- An armoured body is read as the octets that it was written for, however it is cut by gaps. -/
theorem decodeStream_of_filter {text : List Char} (hdash : '-' ∉ text)
    (h : text.filter (fun c => !isGap c) = encode bs) : decodeStream text = some bs := by
  have hused : text.takeWhile (· ≠ '-') = text := by
    rw [List.takeWhile_eq_self_iff]
    intro c hc
    simpa using ne_of_mem_of_not_mem hc hdash
  have hdigits : (encode bs).takeWhile (· ≠ '=') = digits bs := by
    rw [encode_eq, List.takeWhile_append_of_pos]
    · cases lack bs <;> simp [List.replicate_succ]
    · intro c hc
      simpa using ne_of_mem_of_not_mem hc (padding_not_mem_digits bs)
  have hpadding : (encode bs).drop (digits bs).length = List.replicate (lack bs) '=' := by
    rw [encode_eq, List.drop_left]
  have hwhole : (encode bs).length % 4 = 0 := by
    rw [length_encode]
    omega
  rw [decodeStream, hused, h, hdigits, hpadding, List.length_replicate, if_pos, decodeQuads_encode,
    Option.map_some, take_decoded]
  exact ⟨by simp, Nat.le_of_lt_succ (lack_lt bs), hwhole⟩

end Reading

end Base64

end PeerTrust
