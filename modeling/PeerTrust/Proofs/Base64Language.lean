import PeerTrust.Proofs.Base64
import PeerTrust.Proofs.Bytes

/-!
# The texts that unbroken base64 is read from

A text spells octets by the number that its digits make. In base64 the digits are followed by at
most two paddings, each of which takes an octet away. The reader of unbroken texts takes more: a
padding anywhere is a digit that is zero, and gaps and dashes at the end are passed over. The texts
that it takes are described here, and which of them are not base64.
-/

namespace PeerTrust

namespace Base64

variable {c : Char} {text body tail : List Char} {padding : Nat} {bs : Bytes}

section Digits

/-! ### The number of a text -/

/-- The number that digits make, six bits each. What is no digit counts as zero. -/
def number : List Char → Nat
  | [] => 0
  | c :: rest => (value? c).getD 0 * Nat.pow 64 rest.length + number rest

/-- A text in groups of four spells three octets for each group; those that the padding stands for
are left out at the end. -/
structure Spells (text : List Char) (padding : Nat) (bs : Bytes) : Prop where
  whole : text.length % 4 = 0
  length_add : bs.length + padding = 3 * (text.length / 4)
  toNat_eq : bs.toNat = number text / Nat.pow 256 padding

/-- A text spells one octet string. -/
theorem Spells.unique {bs' : Bytes} (h : Spells text padding bs) (h' : Spells text padding bs') :
    bs = bs' := by
  have hlength := h.length_add.trans h'.length_add.symm
  exact Bytes.eq_of_toNat (by omega) (h.toNat_eq.trans h'.toNat_eq.symm)

/-- What the padding stands for is left out. -/
theorem Spells.take (h : Spells text 0 bs) (hfew : padding ≤ bs.length) :
    Spells text padding (bs.take (bs.length - padding)) := by
  have hlength := h.length_add
  have hnumber := h.toNat_eq
  refine ⟨h.whole, ?_, ?_⟩
  · rw [List.length_take]
    omega
  · rw [Bytes.toNat_take hfew, hnumber]
    exact congrArg (· / _) (Nat.div_one _)

theorem value?_lt {n : Nat} (h : value? c = some n) : n < 64 := by
  have hupper : c ≤ 'Z' → c.toNat ≤ 'A'.toNat + 25 := id
  have hlower : c ≤ 'z' → c.toNat ≤ 'a'.toNat + 25 := id
  have hdigit : c ≤ '9' → c.toNat ≤ '0'.toNat + 9 := id
  rw [value?] at h
  split_ifs at h with hc hc hc
  · have := hupper hc.2
    cases h
    omega
  · have := hlower hc.2
    cases h
    omega
  · have := hdigit hc.2
    cases h
    omega
  · cases h
    decide
  · cases h
    decide

/-- A character of base64: a digit or padding. -/
def IsSymbol (c : Char) : Prop :=
  c = '=' ∨ (value? c).isSome = true

theorem isSymbol_iff : IsSymbol c ↔ ∃ n, lenientValue? c = some n := by
  rw [IsSymbol, ← Option.isSome_iff_exists, lenientValue?]
  split
  · next hc => simp [hc]
  · next hc => simp [hc]

theorem spec_of_lenientValue? {n : Nat} (h : lenientValue? c = some n) :
    (value? c).getD 0 = n ∧ n < 64 := by
  rw [lenientValue?] at h
  split at h
  · next hc =>
    cases h
    exact ⟨by rw [hc]; rfl, by decide⟩
  · exact ⟨by rw [h]; rfl, value?_lt h⟩

/-- A group of four digits spells three octets before those of the groups behind it. -/
theorem Spells.group {c₀ c₁ c₂ c₃ : Char} {m n k l : Nat} (h₀ : lenientValue? c₀ = some m)
    (h₁ : lenientValue? c₁ = some n) (h₂ : lenientValue? c₂ = some k)
    (h₃ : lenientValue? c₃ = some l) (h : Spells text 0 bs) :
    Spells (c₀ :: c₁ :: c₂ :: c₃ :: text) 0 (UInt8.ofNat (m * 4 + n / 16)
      :: UInt8.ofNat (n % 16 * 16 + k / 4) :: UInt8.ofNat (k % 4 * 64 + l) :: bs) := by
  obtain ⟨hm, hm64⟩ := spec_of_lenientValue? h₀
  obtain ⟨hn, hn64⟩ := spec_of_lenientValue? h₁
  obtain ⟨hk, hk64⟩ := spec_of_lenientValue? h₂
  obtain ⟨hl, hl64⟩ := spec_of_lenientValue? h₃
  have hwhole := h.whole
  have hlength := h.length_add
  have hnumber : bs.toNat = number text := h.toNat_eq.trans (Nat.div_one _)
  refine ⟨by simp only [List.length_cons]; omega, by simp only [List.length_cons]; omega, ?_⟩
  -- four digits and three octets are both twenty-four bits
  have hbits : Nat.pow 64 text.length = Nat.pow 256 bs.length := by
    obtain ⟨q, hq⟩ : 4 ∣ text.length := Nat.dvd_of_mod_eq_zero hwhole
    have hq' : bs.length = 3 * q := by omega
    rw [hq, hq']
    exact (pow_mul 64 4 q).trans (pow_mul 256 3 q).symm
  have hgroup : (m * 4 + n / 16) * 65536 + (n % 16 * 16 + k / 4) * 256 + (k % 4 * 64 + l)
      = m * 262144 + n * 4096 + k * 64 + l := by omega
  have hdigits : number (c₀ :: c₁ :: c₂ :: c₃ :: text)
      = (m * 262144 + n * 4096 + k * 64 + l) * Nat.pow 64 text.length + number text := by
    simp only [number, hm, hn, hk, hl, List.length_cons, Nat.pow_eq, pow_succ]
    ring
  have hoctet {v : Nat} (hv : v < 256) : (UInt8.ofNat v).toNat = v :=
    UInt8.toNat_ofNat_of_lt' hv
  have hx := @hoctet (m * 4 + n / 16) (by omega)
  have hy := @hoctet (n % 16 * 16 + k / 4) (by omega)
  have hz := @hoctet (k % 4 * 64 + l) (by omega)
  have hone : Nat.pow 256 0 = 1 := rfl
  rw [hone, Nat.div_one, hdigits, ← hgroup, hbits, ← hnumber]
  simp only [Bytes.toNat_cons, hx, hy, hz, List.length_cons, Nat.pow_eq, pow_succ]
  ring

/-- Groups of four digits are read as the octets they spell. -/
theorem exists_decodeQuads (hwhole : text.length % 4 = 0)
    (hsymbols : ∀ c ∈ text, IsSymbol c) :
    ∃ out, decodeQuads lenientValue? text = some out ∧ Spells text 0 out := by
  fun_induction decodeQuads lenientValue? text with
  | case1 c₀ c₁ c₂ c₃ rest ih =>
    simp only [List.forall_mem_cons, isSymbol_iff] at hsymbols ih
    obtain ⟨⟨m, h₀⟩, ⟨n, h₁⟩, ⟨k, h₂⟩, ⟨l, h₃⟩, hrest⟩ := hsymbols
    rw [List.length_cons, List.length_cons, List.length_cons, List.length_cons] at hwhole
    obtain ⟨out, hout, hspells⟩ := ih (by omega) hrest
    rw [h₀, h₁, h₂, h₃, hout]
    exact ⟨_, rfl, hspells.group h₀ h₁ h₂ h₃⟩
  | case2 text hshort =>
    match text with
    | [] => exact ⟨[], rfl, rfl, rfl, rfl⟩
    | [_] | [_, _] | [_, _, _] => cases hwhole
    | c₀ :: c₁ :: c₂ :: c₃ :: rest => exact (hshort _ _ _ _ _ rfl).elim

/-- Only digits and padding are read, as far as they come in groups of four. -/
theorem isSymbol_of_decodeQuads {out : Bytes} (hwhole : text.length % 4 = 0)
    (h : decodeQuads lenientValue? text = some out) :
    ∀ c ∈ text, IsSymbol c := by
  fun_induction decodeQuads lenientValue? text generalizing out with
  | case1 c₀ c₁ c₂ c₃ rest ih =>
    obtain ⟨m, h₀, h⟩ := Option.bind_eq_some_iff.mp h
    obtain ⟨n, h₁, h⟩ := Option.bind_eq_some_iff.mp h
    obtain ⟨k, h₂, h⟩ := Option.bind_eq_some_iff.mp h
    obtain ⟨l, h₃, h⟩ := Option.bind_eq_some_iff.mp h
    obtain ⟨out, hout, -⟩ := Option.bind_eq_some_iff.mp h
    simp only [List.forall_mem_cons, isSymbol_iff] at ih ⊢
    rw [List.length_cons, List.length_cons, List.length_cons, List.length_cons] at hwhole
    exact ⟨⟨m, h₀⟩, ⟨n, h₁⟩, ⟨k, h₂⟩, ⟨l, h₃⟩, ih (by omega) hout⟩
  | case2 text hshort =>
    match text with
    | [] => exact List.forall_mem_nil _
    | [_] | [_, _] | [_, _, _] => cases hwhole
    | c₀ :: c₁ :: c₂ :: c₃ :: rest => exact (hshort _ _ _ _ _ rfl).elim

end Digits

section Reader

/-! ### What the reader takes -/

/-- What the reader of unbroken texts takes for octets. Padding may stand among the digits, and gaps
and dashes behind them. Two paddings at the very end of the text take an octet away each. -/
def IsLooseText (text : List Char) (bs : Bytes) : Prop :=
  ∃ body tail, text = body ++ tail ∧ (text ≠ [] → body ≠ []) ∧ (∀ c ∈ body, IsSymbol c)
    ∧ (∀ c ∈ tail, isGap c = true ∨ c = '-')
    ∧ Spells body (min 2 (text.reverse.takeWhile (· = '=')).length) bs

theorem value?_eq_none (h : isGap c = true ∨ c = '-') : value? c = none := by
  simp only [isGap, Bool.or_eq_true, decide_eq_true_eq, or_assoc] at h
  rcases h with rfl | rfl | rfl | rfl | rfl <;> rfl

/-- Nothing that is passed over at the end is a character of base64. -/
theorem IsSymbol.stays (h : IsSymbol c) : ¬(isGap c = true ∨ c = '-') := by
  intro hpassed
  rcases h with rfl | h
  · revert hpassed
    decide
  · rw [value?_eq_none hpassed] at h
    cases h

theorem paddingOf_eq : paddingOf text = min 2 (text.reverse.takeWhile (· = '=')).length := by
  rw [paddingOf]
  generalize text.reverse = reversed
  split
  · simp
  · next rest hrest =>
    cases rest with
    | nil => rfl
    | cons c rest => simp [show c ≠ '=' from fun hc => hrest rest (by rw [hc])]
  · next hnone =>
    cases reversed with
    | nil => rfl
    | cons c rest => simp [show c ≠ '=' from fun hc => hnone rest (by rw [hc])]

/-- What is dropped at the end are gaps and dashes, never the whole text. -/
theorem exists_dropTrailing (text : List Char) :
    ∃ tail, text = tail ++ dropTrailing text ∧ (text ≠ [] → dropTrailing text ≠ [])
      ∧ ∀ c ∈ tail, isGap c = true ∨ c = '-' := by
  induction text with
  | nil => exact ⟨[], rfl, id, List.forall_mem_nil _⟩
  | cons c rest ih =>
    rw [dropTrailing]
    split
    · next hdrops =>
      obtain ⟨tail, hrest, hne, htail⟩ := ih
      refine ⟨c :: tail, congrArg (c :: ·) hrest, fun _ => hne ?_,
        List.forall_mem_cons.mpr ⟨hdrops.2, htail⟩⟩
      rintro rfl
      exact absurd hdrops.1 (by decide)
    · exact ⟨[], rfl, fun _ => List.cons_ne_nil _ _, List.forall_mem_nil _⟩

/-- Gaps and dashes behind symbols are dropped, and no symbol is. -/
theorem dropTrailing_append (htail : ∀ c ∈ tail, isGap c = true ∨ c = '-')
    (hsymbols : ∀ c ∈ text, IsSymbol c) (hlength : 3 ≤ text.length) :
    dropTrailing (tail ++ text) = text := by
  induction tail with
  | nil =>
    obtain ⟨c, rest, rfl⟩ := List.exists_cons_of_length_pos (by omega : 0 < text.length)
    rw [List.nil_append, dropTrailing,
      if_neg fun hdrops => (hsymbols c List.mem_cons_self).stays hdrops.2]
  | cons c tail ih =>
    obtain ⟨hc, htail⟩ := List.forall_mem_cons.mp htail
    have hmany : (tail ++ text).length ≥ 3 := by
      rw [List.length_append]
      omega
    rw [List.cons_append, dropTrailing, if_pos ⟨hmany, hc⟩, ih htail]

/-- A text is what its reader keeps and what it passes over at the end. -/
theorem exists_tail (text : List Char) :
    ∃ tail, text = (dropTrailing text.reverse).reverse ++ tail
      ∧ (text ≠ [] → (dropTrailing text.reverse).reverse ≠ [])
      ∧ ∀ c ∈ tail, isGap c = true ∨ c = '-' := by
  obtain ⟨tail, htext, hne, htail⟩ := exists_dropTrailing text.reverse
  refine ⟨tail.reverse, ?_, fun h => ?_, fun c hc => htail c (List.mem_reverse.mp hc)⟩
  · rw [← List.reverse_append, ← htext, List.reverse_reverse]
  · exact mt List.reverse_eq_nil_iff.mp (hne (mt List.reverse_eq_nil_iff.mp h))

/-- Of symbols with gaps and dashes behind them the symbols are kept. -/
theorem reverse_dropTrailing_append (htail : ∀ c ∈ tail, isGap c = true ∨ c = '-')
    (hsymbols : ∀ c ∈ body, IsSymbol c) (hlength : 3 ≤ body.length) :
    (dropTrailing (body ++ tail).reverse).reverse = body := by
  rw [List.reverse_append, dropTrailing_append, List.reverse_reverse]
  · exact fun c hc => htail c (List.mem_reverse.mp hc)
  · exact fun c hc => hsymbols c (List.mem_reverse.mp hc)
  · rwa [List.length_reverse]

/-- Symbols that come in groups are read as the octets they spell, without those of the padding. -/
theorem map_decodeQuads_eq_some_iff (hne : text ≠ []) (hwhole : text.length % 4 = 0)
    (hfew : padding ≤ 2) :
    (decodeQuads lenientValue? text).map (fun out => out.take (out.length - padding)) = some bs
      ↔ (∀ c ∈ text, IsSymbol c) ∧ Spells text padding bs := by
  have hpos := List.length_pos_iff.mpr hne
  have hmany {out : Bytes} (h : Spells text 0 out) : padding ≤ out.length := by
    have := h.length_add
    omega
  constructor
  · intro h
    obtain ⟨out, hout, rfl⟩ := Option.map_eq_some_iff.mp h
    have hsymbols := isSymbol_of_decodeQuads hwhole hout
    obtain ⟨out', hout', hspells⟩ := exists_decodeQuads hwhole hsymbols
    cases hout.symm.trans hout'
    exact ⟨hsymbols, hspells.take (hmany hspells)⟩
  · rintro ⟨hsymbols, hspells⟩
    obtain ⟨out, hout, hall⟩ := exists_decodeQuads hwhole hsymbols
    rw [hout, Option.map_some, (hall.take (hmany hall)).unique hspells]

theorem isLooseText_nil_iff : IsLooseText [] bs ↔ bs = [] := by
  constructor
  · rintro ⟨body, tail, hnil, -, -, -, hspells⟩
    obtain ⟨rfl, -⟩ := List.append_eq_nil_iff.mp hnil.symm
    have hlength := hspells.length_add
    exact List.eq_nil_of_length_eq_zero (Nat.eq_zero_of_add_eq_zero_right hlength)
  · rintro rfl
    exact ⟨[], [], rfl, id, List.forall_mem_nil _, List.forall_mem_nil _, rfl, rfl, rfl⟩

/-- The reader of unbroken texts takes exactly these texts. -/
theorem decodeBlock_eq_some_iff :
    decodeBlock text = some bs ↔ IsLooseText (Text.trim text) bs := by
  rw [decodeBlock]
  generalize Text.trim text = text
  dsimp only
  by_cases hempty : text = []
  · rw [hempty, isLooseText_nil_iff]
    exact Option.some_inj.trans eq_comm
  have hfew : paddingOf text ≤ 2 := paddingOf_eq ▸ Nat.min_le_left _ _
  rw [if_neg (mt List.isEmpty_iff.mp hempty), IsLooseText, ← paddingOf_eq]
  constructor
  · intro h
    obtain ⟨tail, htext, hne, htail⟩ := exists_tail text
    split at h
    · cases h
    · next hwhole =>
      obtain ⟨hsymbols, hspells⟩ :=
        (map_decodeQuads_eq_some_iff (hne hempty) (not_not.mp hwhole) hfew).mp h
      exact ⟨_, tail, htext, hne, hsymbols, htail, hspells⟩
  · rintro ⟨body, tail, htext, hne, hsymbols, htail, hspells⟩
    have hwhole := hspells.whole
    -- a group at least, so that all of the tail is dropped
    have hlength := List.length_pos_iff.mpr (hne hempty)
    have hbody : (dropTrailing text.reverse).reverse = body :=
      htext ▸ reverse_dropTrailing_append htail hsymbols (by omega)
    rw [hbody, if_neg (not_not.mpr hwhole)]
    exact (map_decodeQuads_eq_some_iff (hne hempty) hwhole hfew).mpr ⟨hsymbols, hspells⟩

end Reader

section Strict

/-! ### What is base64 of it -/

/-- Base64 for octets: digits, and behind them at most two paddings. -/
def IsText (text : List Char) (bs : Bytes) : Prop :=
  ∃ digits padding, padding ≤ 2 ∧ text = digits ++ List.replicate padding '='
    ∧ (∀ c ∈ digits, (value? c).isSome = true) ∧ Spells text padding bs

/-- Padding stands at the end only, at most twice, and there is nothing to be passed over. -/
def IsTidy (text : List Char) : Prop :=
  ∃ digits padding, padding ≤ 2 ∧ text = digits ++ List.replicate padding '='
    ∧ ∀ c ∈ digits, c ≠ '=' ∧ ¬(isGap c = true ∨ c = '-')

/-- As many paddings stand at the end as are put there. -/
theorem length_takeWhile_padding {digits : List Char} (hdigits : '=' ∉ digits) (n : Nat) :
    ((digits ++ List.replicate n '=').reverse.takeWhile (· = '=')).length = n := by
  have hnone : digits.reverse.takeWhile (· = '=') = [] := by
    refine List.takeWhile_eq_nil_iff.mpr fun hfirst heq => hdigits ?_
    rw [← List.mem_reverse, ← of_decide_eq_true heq]
    exact List.get_mem _ _
  rw [List.reverse_append, List.reverse_replicate, List.takeWhile_append_of_pos (by simp), hnone,
    List.append_nil, List.length_replicate]

/-- Base64 is what is tidy of the texts that the reader takes, and is read as what it stands for. -/
theorem isText_iff : IsText text bs ↔ IsLooseText text bs ∧ IsTidy text := by
  constructor
  · rintro ⟨digits, padding, hfew, rfl, hdigits, hspells⟩
    have hplain (c : Char) (hc : c ∈ digits) : c ≠ '=' ∧ ¬(isGap c = true ∨ c = '-') := by
      refine ⟨?_, IsSymbol.stays (.inr (hdigits c hc))⟩
      rintro rfl
      exact absurd (hdigits _ hc) (by decide)
    refine ⟨⟨_, [], (List.append_nil _).symm, id, fun c hc => ?_, List.forall_mem_nil _, ?_⟩,
      digits, padding, hfew, rfl, hplain⟩
    · rcases List.mem_append.mp hc with hc | hc
      · exact .inr (hdigits c hc)
      · exact .inl (List.eq_of_mem_replicate hc)
    · rwa [length_takeWhile_padding fun hc => (hplain _ hc).1 rfl, Nat.min_eq_right hfew]
  · rintro ⟨⟨body, tail, htext, -, hsymbols, htail, hspells⟩, digits, padding, hfew, rfl, hplain⟩
    -- nothing in a tidy text could be passed over, so all of it was read
    have hnil : tail = [] := by
      refine List.eq_nil_iff_forall_not_mem.mpr fun c hc => ?_
      have hmem : c ∈ digits ++ List.replicate padding '=' := htext ▸ List.mem_append_right _ hc
      rcases List.mem_append.mp hmem with hdigit | hpadding
      · exact (hplain c hdigit).2 (htail c hc)
      · exact IsSymbol.stays (.inl (List.eq_of_mem_replicate hpadding)) (htail c hc)
    rw [hnil, List.append_nil] at htext
    subst htext
    rw [length_takeWhile_padding fun hc => (hplain _ hc).1 rfl, Nat.min_eq_right hfew] at hspells
    refine ⟨digits, padding, hfew, rfl, fun c hc => ?_, hspells⟩
    exact (hsymbols c (List.mem_append_left _ hc)).resolve_left (hplain c hc).1

/-- Behind the last two places of a tidy text there is no room for padding. -/
theorem IsTidy.padding_not_mem_take (h : IsTidy text) : '=' ∉ text.take (text.length - 2) := by
  obtain ⟨digits, padding, hfew, rfl, hplain⟩ := h
  intro hmem
  rw [List.take_append_of_le_length] at hmem
  · exact (hplain _ (List.mem_of_mem_take hmem)).1 rfl
  · rw [List.length_append, List.length_replicate]
    omega

/-- What is written for octets is base64 for them. -/
theorem isText_encode (bs : Bytes) : IsText (encode bs) bs := by
  have hread := decodeBlock_eq_some_iff.mp (decodeBlock_encode bs)
  rw [Text.trim_of_not_blank fun c hc => (inert_of_mem_encode hc).notBlank] at hread
  refine isText_iff.mpr ⟨hread, digits bs, lack bs, Nat.le_of_lt_succ (lack_lt bs), encode_eq bs,
    fun c hc => ?_⟩
  obtain ⟨n, hn, rfl⟩ := exists_of_mem_digits hc
  refine ⟨symbol_ne_padding hn, IsSymbol.stays (.inr ?_)⟩
  rw [value?_symbol hn]
  rfl

/-- Nothing is passed over behind octets that leave a group unfinished. -/
theorem IsLooseText.symbols (h : IsLooseText text bs) (hrest : bs.length % 3 ≠ 0) :
    ∀ c ∈ text, IsSymbol c := by
  obtain ⟨body, tail, rfl, -, hsymbols, htail, hspells⟩ := h
  rcases List.eq_nil_or_concat tail with rfl | ⟨front, c, rfl⟩
  · rwa [List.append_nil]
  · have hlast : c ≠ '=' := by
      rintro rfl
      exact absurd (htail '=' (by simp)) (by decide)
    have hnone : (body ++ front.concat c).reverse.takeWhile (· = '=') = [] := by simp [hlast]
    have hlength := hspells.length_add
    rw [hnone, List.length_nil, Nat.min_zero, Nat.add_zero] at hlength
    omega

end Strict

end Base64

end PeerTrust
