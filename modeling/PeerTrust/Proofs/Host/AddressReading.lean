import Mathlib.Tactic.NormNum
import PeerTrust.Proofs.Bytes
import PeerTrust.Proofs.Host.AddressText
import PeerTrust.Proofs.Row

/-!
# Canonical texts of addresses are read as the addresses

An address of four octets is written as four decimal numbers, one of sixteen octets as hexadecimal
groups in which the first longest run of zeros may be left out. Whatever run is left out, as many
zeros as are missing are put in again where the gap stands, so reading gives back every address.

Only the canonical text of an address is considered, and addresses of the right number of octets.
-/

namespace PeerTrust.Address

/-- An address has the octets of its kind. -/
def IsSound : Address → Prop
  | v4 octets => octets.length = 4
  | v6 octets => octets.length = 16

section Numbers

/-! ### Numbers -/

variable {value : Char → Option Nat} {base : Nat}

/-- The digits of a base have the values that they are written for. -/
def Values (value : Char → Option Nat) (base : Nat) : Prop :=
  ∀ d < base, value (Nat.digitChar d) = some d

theorem values_decimal? : Values decimal? 10 := by
  unfold Values
  decide

theorem values_hex : Values Hex.value? 16 := by
  unfold Values
  decide

/-- A number that is written has digits of its base only. -/
theorem exists_digit_of_mem_toDigits (hbase : 1 < base) {n : Nat} {c : Char}
    (hc : c ∈ Nat.toDigits base n) : ∃ d < base, c = Nat.digitChar d := by
  induction n using Nat.strongRecOn with
  | ind n ih =>
    rw [Nat.toDigits_eq_if hbase] at hc
    split at hc
    · rename_i hsmall
      exact ⟨n, hsmall, List.mem_singleton.mp hc⟩
    · rename_i hlarge
      rcases List.mem_append.mp hc with hc | hc
      · exact ih (n / base) (Nat.div_lt_self (by omega) hbase) hc
      · exact ⟨n % base, Nat.mod_lt n (by omega), List.mem_singleton.mp hc⟩

/-- The digits of a number that is written make the number. -/
theorem foldl_toDigits (hvalue : Values value base) (hbase : 1 < base) (n : Nat) :
    (Nat.toDigits base n).foldl (fun n c => base * n + (value c).getD 0) 0 = n := by
  induction n using Nat.strongRecOn with
  | ind n ih =>
    rw [Nat.toDigits_eq_if hbase]
    split
    · rename_i hsmall
      rw [List.foldl_cons, List.foldl_nil, hvalue n hsmall, Option.getD_some, Nat.mul_zero,
        Nat.zero_add]
    · rename_i hlarge
      rw [List.foldl_append, ih (n / base) (Nat.div_lt_self (by omega) hbase), List.foldl_cons,
        List.foldl_nil, hvalue _ (Nat.mod_lt n (by omega)), Option.getD_some, Nat.div_add_mod]

/-- A number that is written is read again up to where no digit follows. -/
theorem number?_toDigits (hvalue : Values value base) (hbase : 1 < base) {limit n : Nat}
    (hlimit : 0 < limit) (hn : n < base ^ limit) {rest : List Char}
    (hrest : ∀ c ∈ rest.head?, value c = none) :
    number? value base limit (Nat.toDigits base n ++ rest) = some (n, rest) := by
  have hdigits : ∀ c ∈ Nat.toDigits base n, (value c).isSome = true := by
    intro c hc
    obtain ⟨d, hd, rfl⟩ := exists_digit_of_mem_toDigits hbase hc
    rw [hvalue d hd]
    rfl
  have hend : rest.takeWhile (fun c => (value c).isSome) = [] := by
    cases rest with
    | nil => rfl
    | cons c rest =>
      have hc : value c = none := hrest c rfl
      rw [List.takeWhile_cons_of_neg]
      rw [hc]
      exact Bool.false_ne_true
  have htake : (Nat.toDigits base n ++ rest).takeWhile (fun c => (value c).isSome)
      = Nat.toDigits base n := by
    rw [List.takeWhile_append_of_pos hdigits, hend, List.append_nil]
  have hlength := (Nat.length_toDigits_le_iff hbase hlimit).mpr hn
  rw [number?]
  simp only [htake]
  rw [if_neg, foldl_toDigits hvalue hbase, List.drop_left]
  rw [List.isEmpty_iff, not_or]
  exact ⟨Nat.toDigits_ne_nil, by omega⟩

end Numbers

section FourOctets

/-! ### Addresses of four octets -/

/-- Of the numbers of an octet, none but zero is written with a zero in front. -/
theorem length_toDigits_of_head_zero (b : UInt8)
    (h : (Nat.toDigits 10 b.toNat).head? = some '0') : (Nat.toDigits 10 b.toNat).length = 1 := by
  have hall : ∀ n < 256, (Nat.toDigits 10 n).head? = some '0' → (Nat.toDigits 10 n).length = 1 := by
    decide +kernel
  exact hall b.toNat b.toNat_lt h

/-- A decimal octet that is written is read again up to where no digit follows. -/
theorem octet?_toDigits (b : UInt8) {rest : List Char}
    (hrest : ∀ c ∈ rest.head?, decimal? c = none) :
    octet? (Nat.toDigits 10 b.toNat ++ rest) = some (b, rest) := by
  have hsmall := b.toNat_lt
  have hnumber : number? decimal? 10 3 (Nat.toDigits 10 b.toNat ++ rest) = some (b.toNat, rest) :=
    number?_toDigits values_decimal? (by omega) (by omega) (by omega) hrest
  have hzero : ¬((Nat.toDigits 10 b.toNat ++ rest).head? = some '0'
      ∧ rest.length + 1 < (Nat.toDigits 10 b.toNat ++ rest).length) := by
    rintro ⟨hhead, hlong⟩
    rw [List.head?_append_of_ne_nil _ Nat.toDigits_ne_nil] at hhead
    have hshort := length_toDigits_of_head_zero b hhead
    rw [List.length_append] at hlong
    omega
  rw [octet?, hnumber]
  simp only [Option.bind_eq_bind, Option.bind_some, hsmall, hzero, not_false_eq_true, and_self,
    if_true, UInt8.ofNat_toNat, Option.pure_def]

theorem textV4_eq (a b c d : UInt8) :
    textV4 [a, b, c, d] = Nat.toDigits 10 a.toNat ++ '.' :: (Nat.toDigits 10 b.toNat
      ++ '.' :: (Nat.toDigits 10 c.toNat ++ '.' :: (Nat.toDigits 10 d.toNat ++ []))) := by
  simp [textV4, List.intercalate]

/-- The dotted text of four octets is read as these. -/
theorem readV4_textV4 (a b c d : UInt8) : readV4 (textV4 [a, b, c, d]) = some ([a, b, c, d], []) := by
  have hdot (rest : List Char) : ∀ e ∈ ('.' :: rest).head?, decimal? e = none := by
    rintro _ ⟨⟩
    rfl
  rw [textV4_eq, readV4, octet?_toDigits a (hdot _)]
  simp only [Option.bind_eq_bind, Option.bind_some, expect, if_true]
  rw [octet?_toDigits b (hdot _)]
  simp only [Option.bind_some, if_true]
  rw [octet?_toDigits c (hdot _)]
  simp only [Option.bind_some, if_true]
  rw [octet?_toDigits d (by simp)]
  rfl

/-- Four octets are all that a dotted address has. -/
theorem length_of_readV4 {text rest : List Char} {bs : Bytes} (h : readV4 text = some (bs, rest)) :
    bs.length = 4 := by
  simp only [readV4, Option.bind_eq_bind, Option.bind_eq_some_iff, Option.pure_def,
    Option.some.injEq, Prod.mk.injEq] at h
  obtain ⟨_, _, _, _, _, _, _, _, _, _, _, _, _, _, rfl, -⟩ := h
  rfl

/-- A decimal octet at the end of a text is all digits. -/
theorem decimal?_of_octet? {text : List Char} {b : UInt8} (h : octet? text = some (b, [])) :
    text ≠ [] ∧ ∀ c ∈ text, (decimal? c).isSome = true := by
  obtain ⟨⟨n, after⟩, hnumber, h⟩ := Option.bind_eq_some_iff.mp h
  dsimp only at h
  split at h
  · cases h
    unfold number? at hnumber
    dsimp only at hnumber
    split at hnumber
    · cases hnumber
    · rename_i hsome
      rw [not_or, List.isEmpty_iff] at hsome
      simp only [Option.some.injEq, Prod.mk.injEq, List.drop_eq_nil_iff] at hnumber
      have hall := (List.takeWhile_prefix fun c => (decimal? c).isSome).eq_of_length_le hnumber.2
      rw [hall] at hsome
      exact ⟨hsome.1, List.takeWhile_eq_self_iff.mp hall⟩
  · cases h

/-- Behind the last dot of a dotted address are digits. -/
theorem exists_digits_of_readV4 {text : List Char} {bs : Bytes} (h : readV4 text = some (bs, [])) :
    ∃ before last, text = before ++ '.' :: last ∧ last ≠ [] ∧
      ∀ c ∈ last, (decimal? c).isSome = true := by
  simp only [readV4, Option.bind_eq_bind, Option.bind_eq_some_iff, expect_eq_some_iff,
    Option.pure_def, Option.some.injEq, Prod.mk.injEq, Prod.exists] at h
  obtain ⟨_, _, ha, _, rfl, _, _, hb, _, rfl, _, _, hc, last, rfl, _, _, hd, -, rfl⟩ := h
  obtain ⟨first, -, rfl, -⟩ := octet?_takes ha
  obtain ⟨second, -, rfl, -⟩ := octet?_takes hb
  obtain ⟨third, -, rfl, -⟩ := octet?_takes hc
  exact ⟨first ++ '.' :: second ++ '.' :: third, last, by simp, decimal?_of_octet? hd⟩

/-- A text without dots is no dotted address. -/
theorem readV4_eq_none {text : List Char} (h : '.' ∉ text) : readV4 text = none := by
  rw [Option.eq_none_iff_forall_ne_some]
  rintro ⟨bs, rest⟩ hread
  simp only [readV4, Option.bind_eq_bind, Option.bind_eq_some_iff, expect_eq_some_iff,
    Prod.exists] at hread
  obtain ⟨_, _, hfirst, _, rfl, -⟩ := hread
  obtain ⟨used, -, rfl, -⟩ := octet?_takes hfirst
  exact h (List.mem_append_right _ List.mem_cons_self)

end FourOctets

section Groups

/-! ### Groups of hexadecimal digits -/

/-- The octets of groups. -/
def groupOctets (l : List Nat) : Bytes :=
  l.flatMap (Bytes.ofNat 2)

@[simp] theorem length_groupOctets (l : List Nat) : (groupOctets l).length = 2 * l.length := by
  induction l with
  | nil => rfl
  | cons g l ih =>
    rw [groupOctets, List.flatMap_cons, List.length_append, Bytes.length_ofNat, List.length_cons]
    change 2 + (groupOctets l).length = _
    omega

theorem groupOctets_append (l l' : List Nat) :
    groupOctets (l ++ l') = groupOctets l ++ groupOctets l' :=
  List.flatMap_append

theorem groupOctets_replicate_zero (n : Nat) :
    groupOctets (List.replicate n 0) = List.replicate (2 * n) 0 := by
  induction n with
  | zero => rfl
  | succ n ih =>
    rw [List.replicate_succ, groupOctets, List.flatMap_cons]
    change Bytes.ofNat 2 0 ++ groupOctets (List.replicate n 0) = _
    rw [ih, Nat.mul_succ, Nat.add_comm, List.replicate_add]
    rfl

/-- The groups of an even number of octets hold the octets, each group two of them. -/
theorem groups_spec (n : Nat) {bs : Bytes} (h : bs.length = 2 * n) :
    groupOctets (groups bs) = bs ∧ (groups bs).length = n ∧ ∀ g ∈ groups bs, g < 16 ^ 4 := by
  induction n generalizing bs with
  | zero =>
    rw [List.eq_nil_of_length_eq_zero h]
    exact ⟨rfl, rfl, nofun⟩
  | succ n ih =>
    obtain ⟨a, b, bs, rfl⟩ : ∃ a b rest, bs = a :: b :: rest := by
      match bs, h with
      | a :: b :: rest, _ => exact ⟨a, b, rest, rfl⟩
    obtain ⟨hoctets, hlength, hsmall⟩ := ih (by simp at h; omega : bs.length = 2 * n)
    have ha := a.toNat_lt
    have hb := b.toNat_lt
    have hgroup : Bytes.ofNat 2 (256 * a.toNat + b.toNat) = [a, b] := by
      have hnumber : Bytes.toNat [a, b] = 256 * a.toNat + b.toNat := by
        simp [Bytes.toNat, Nat.mul_comm]
      have hlength : ([a, b] : Bytes).length = 2 := rfl
      rw [← hnumber, Bytes.ofNat_toNat_of_length hlength]
    refine ⟨?_, ?_, ?_⟩
    · rw [groups, groupOctets, List.flatMap_cons, hgroup]
      exact congrArg (fun rest => a :: b :: rest) hoctets
    · rw [groups, List.length_cons, hlength]
    · rw [groups]
      refine List.forall_mem_cons.mpr ⟨?_, hsmall⟩
      omega

/-- A group that is written is read again up to where no digit follows. -/
theorem group?_ofNat {g : Nat} (hg : g < 16 ^ 4) {rest : List Char}
    (hrest : ∀ c ∈ rest.head?, Hex.value? c = none) :
    group? (Hex.ofNat g ++ rest) = some (Bytes.ofNat 2 g, rest) := by
  rw [group?, Hex.ofNat, number?_toDigits values_hex (by omega) (by omega) hg hrest]
  rfl

/-- The characters of groups and of the colons between them. -/
def IsGroupChar (c : Char) : Prop :=
  c = ':' ∨ ∃ d < 16, c = Nat.digitChar d

theorem IsGroupChar.ne_dot {c : Char} (h : IsGroupChar c) : c ≠ '.' := by
  have hdigits : ∀ d < 16, Nat.digitChar d ≠ '.' := by decide
  obtain rfl | ⟨d, hd, rfl⟩ := h
  · decide
  · exact hdigits d hd

theorem isGroupChar_of_mem_ofNat {g : Nat} {c : Char} (hc : c ∈ Hex.ofNat g) : IsGroupChar c :=
  .inr (exists_digit_of_mem_toDigits (by omega) hc)

/-- What may stand behind groups that end: nothing, or a gap. -/
def EndsGroups (rest : List Char) : Prop :=
  rest = [] ∨ ∃ behind, rest = ':' :: ':' :: behind

/-- Where groups end, none is read. -/
theorem readGroups_of_endsGroups (room : Nat) (first : Bool) {rest : List Char}
    (hends : EndsGroups rest) (hdot : '.' ∉ rest) :
    readGroups room first rest = ([], false, rest) := by
  cases room with
  | zero => rfl
  | succ room =>
    have hgroup : ((if first then some rest else expect ':' rest).bind group?) = none := by
      obtain rfl | ⟨behind, rfl⟩ := hends <;> cases first <;> rfl
    have hdotted : ((if first then some rest else expect ':' rest).bind readV4) = none := by
      rw [Option.bind_eq_none_iff]
      intro start hstart
      refine readV4_eq_none fun hmem => hdot ?_
      split at hstart
      · rwa [Option.some.inj hstart]
      · rw [expect_eq_some_iff.mp hstart]
        exact List.mem_cons_of_mem _ hmem
    rw [readGroups, hgroup, hdotted]
    simp only [ite_self]

/-- Reading one group, the first or one behind a colon, and then the others. -/
theorem readGroups_of_group (room : Nat) (first : Bool) {g : Nat} (hg : g < 16 ^ 4)
    {rest : List Char} (hrest : ∀ c ∈ rest.head?, Hex.value? c = none) (hdot : '.' ∉ rest) :
    readGroups (room + 1) first ((if first then [] else [':']) ++ (Hex.ofNat g ++ rest))
      = (Bytes.ofNat 2 g ++ (readGroups room false rest).1, (readGroups room false rest).2) := by
  have hstart : (if first then some ((if first then [] else [':']) ++ (Hex.ofNat g ++ rest))
      else expect ':' ((if first then [] else [':']) ++ (Hex.ofNat g ++ rest)))
        = some (Hex.ofNat g ++ rest) := by
    cases first <;> rfl
  have hdotted : readV4 (Hex.ofNat g ++ rest) = none := by
    refine readV4_eq_none fun hmem => ?_
    exact (List.mem_append.mp hmem).elim (fun hc => (isGroupChar_of_mem_ofNat hc).ne_dot rfl) hdot
  rw [readGroups, hstart, Option.bind_some, Option.bind_some, hdotted, group?_ofNat hg hrest]
  simp only [ite_self]

/-- Groups in a row, each but the first behind a colon. -/
def groupText (first : Bool) (l : List Nat) : List Char :=
  row ':' Hex.ofNat first l

theorem groupText_cons (first : Bool) (g : Nat) (l : List Nat) :
    groupText first (g :: l)
      = (if first then [] else [':']) ++ (Hex.ofNat g ++ groupText false l) :=
  rfl

theorem colonText_eq (l : List Nat) : colonText l = groupText true l :=
  intercalate_map ':' Hex.ofNat l

theorem isGroupChar_of_mem_groupText {first : Bool} {l : List Nat} {c : Char}
    (hc : c ∈ groupText first l) : IsGroupChar c := by
  rcases mem_of_mem_row hc with rfl | ⟨g, -, hmem⟩
  · exact .inl rfl
  · exact isGroupChar_of_mem_ofNat hmem

theorem dot_not_mem_groupText (first : Bool) (l : List Nat) : '.' ∉ groupText first l :=
  fun hdot => (isGroupChar_of_mem_groupText hdot).ne_dot rfl

/-- Groups in a row are read up to where they end. -/
theorem readGroups_groupText {room : Nat} (first : Bool) {l : List Nat} (hroom : l.length ≤ room)
    (hsmall : ∀ g ∈ l, g < 16 ^ 4) {rest : List Char} (hends : EndsGroups rest)
    (hdot : '.' ∉ rest) :
    readGroups room first (groupText first l ++ rest) = (groupOctets l, false, rest) := by
  induction l generalizing room first with
  | nil => exact readGroups_of_endsGroups room first hends hdot
  | cons g l ih =>
    rw [List.length_cons] at hroom
    obtain ⟨room, rfl⟩ : ∃ left, room = left + 1 := ⟨room - 1, by omega⟩
    obtain ⟨hg, hl⟩ := List.forall_mem_cons.mp hsmall
    have hcolon : ∀ c ∈ (groupText false l ++ rest).head?, Hex.value? c = none := by
      have hvalue : Hex.value? ':' = none := by decide
      cases l with
      | nil => obtain rfl | ⟨behind, rfl⟩ := hends <;> simp [groupText, row, hvalue]
      | cons _ _ => simp [groupText, row, hvalue]
    have hdot' : '.' ∉ groupText false l ++ rest := by
      simp [dot_not_mem_groupText, hdot]
    rw [groupText_cons, List.append_assoc, List.append_assoc, readGroups_of_group room first hg hcolon
      hdot', ih false (by omega) hl]
    rfl

end Groups

section SixteenOctets

/-! ### Addresses of sixteen octets -/

/-- A run in a list: zeros, as many as are told, from the place that is told. -/
def IsRun (l : List Nat) (run : Nat × Nat) : Prop :=
  l = l.take run.1 ++ List.replicate run.2 0 ++ l.drop (run.1 + run.2)

theorem isRun_leadingZeros (l : List Nat) (start : Nat) :
    IsRun l (start, leadingZeros (l.drop start)) := by
  have hzeros : (l.drop start).takeWhile (· = 0)
      = List.replicate (leadingZeros (l.drop start)) 0 := by
    refine List.eq_replicate_iff.mpr ⟨rfl, fun g hg => ?_⟩
    have hzero := List.mem_takeWhile_imp hg
    simpa using hzero
  have hrest : (l.drop start).dropWhile (· = 0)
      = (l.drop start).drop (leadingZeros (l.drop start)) := by
    have hsplit := List.takeWhile_append_dropWhile (p := (decide <| · = 0)) (l := l.drop start)
    have hdrop := congrArg (List.drop (leadingZeros (l.drop start))) hsplit
    rwa [List.drop_left' (by rfl)] at hdrop
  rw [IsRun, ← List.drop_drop, ← hrest, ← hzeros, List.append_assoc,
    List.takeWhile_append_dropWhile, List.take_append_drop]

/-- The longest run of zeros is a run. -/
theorem isRun_longestZeros (l : List Nat) : IsRun l (longestZeros l) := by
  unfold longestZeros
  apply List.foldlRecOn
  · simp [IsRun]
  · intro run hrun i _
    dsimp only
    split
    · exact isRun_leadingZeros l i
    · exact hrun

/-- Reading puts in the zeros of a gap between groups. -/
theorem readV6_gap {l l' : List Nat} {zeros : Nat} (hzeros : 0 < zeros)
    (hlength : l.length + zeros + l'.length = 8) (hsmall : ∀ g ∈ l, g < 16 ^ 4)
    (hsmall' : ∀ g ∈ l', g < 16 ^ 4) :
    readV6 (colonText l ++ [':', ':'] ++ colonText l')
      = some (groupOctets (l ++ List.replicate zeros 0 ++ l'), []) := by
  rw [colonText_eq, colonText_eq]
  have hdot := dot_not_mem_groupText true l'
  have hfront : readGroups 8 true (groupText true l ++ [':', ':'] ++ groupText true l')
      = (groupOctets l, false, ':' :: ':' :: groupText true l') := by
    rw [List.append_assoc]
    refine readGroups_groupText true (by omega) hsmall (.inr ⟨_, rfl⟩) ?_
    simp [hdot]
  have hback : readGroups (8 - (l.length + 1)) true (groupText true l')
      = (groupOctets l', false, []) := by
    have hread := readGroups_groupText true (by omega : l'.length ≤ 8 - (l.length + 1)) hsmall'
      (.inl rfl) List.not_mem_nil
    rwa [List.append_nil] at hread
  have hhalf : 2 * l.length / 2 = l.length := Nat.mul_div_cancel_left _ (by omega)
  have hmissing : 16 - 2 * l.length - 2 * l'.length = 2 * zeros := by omega
  rw [readV6, hfront]
  dsimp only
  rw [if_neg (by rw [length_groupOctets]; omega), if_neg Bool.false_ne_true]
  simp only [expect, if_true, Option.bind_eq_bind, Option.bind_some, length_groupOctets, hhalf,
    hback, hmissing, Option.pure_def]
  rw [groupOctets_append, groupOctets_append, groupOctets_replicate_zero]

/-- The canonical text of sixteen octets is read as these. -/
theorem readV6_textV6 {bs : Bytes} (h : bs.length = 16) : readV6 (textV6 bs) = some (bs, []) := by
  obtain ⟨hoctets, hlength, hsmall⟩ := groups_spec 8 h
  have hrun := isRun_longestZeros (groups bs)
  rw [textV6]
  generalize longestZeros (groups bs) = run at hrun ⊢
  obtain ⟨start, len⟩ := run
  dsimp only
  split
  · -- nothing is left out, so the groups are all there
    have hread := readGroups_groupText true (by omega : (groups bs).length ≤ 8) hsmall (.inl rfl)
      List.not_mem_nil
    rw [List.append_nil] at hread
    rw [colonText_eq, readV6, hread]
    dsimp only
    rw [if_pos (by rw [length_groupOctets]; omega), hoctets]
    rfl
  · rename_i hlong
    unfold IsRun at hrun
    dsimp only at hrun
    have hsum := congrArg List.length hrun
    rw [List.length_append, List.length_append, List.length_replicate, hlength] at hsum
    rw [readV6_gap (by omega : 0 < len) hsum.symm
      (fun g hg => hsmall g (List.mem_of_mem_take hg))
      (fun g hg => hsmall g (List.mem_of_mem_drop hg)), ← hrun, hoctets]

theorem isGroupChar_of_mem_textV6 {bs : Bytes} {c : Char} (hc : c ∈ textV6 bs) :
    IsGroupChar c := by
  unfold textV6 at hc
  dsimp only at hc
  rw [colonText_eq, colonText_eq, colonText_eq] at hc
  split at hc
  · exact isGroupChar_of_mem_groupText hc
  · rcases List.mem_append.mp hc with hc | hc
    · rcases List.mem_append.mp hc with hc | hcolon
      · exact isGroupChar_of_mem_groupText hc
      · simp only [List.mem_cons, List.not_mem_nil, or_false, or_self] at hcolon
        exact .inl hcolon
    · exact isGroupChar_of_mem_groupText hc

end SixteenOctets

section Soundness

/-! ### Octets of what is read -/

/-- A group has two octets. -/
theorem length_readGroups_le (room : Nat) (first : Bool) (text : List Char) :
    (readGroups room first text).1.length ≤ 2 * room := by
  induction room generalizing first text with
  | zero => exact Nat.le_refl _
  | succ room ih =>
    unfold readGroups
    dsimp only
    split
    · rename_i bs rest hdotted
      split at hdotted
      · cases hdotted
      · rename_i hroom
        obtain ⟨start, -, hread⟩ := Option.bind_eq_some_iff.mp hdotted
        rw [length_of_readV4 hread]
        omega
    · split
      · exact Nat.zero_le _
      · rename_i bs rest hgroup
        have hmore := ih false rest
        obtain ⟨start, -, hread⟩ := Option.bind_eq_some_iff.mp hgroup
        obtain ⟨_, -, hnumber⟩ := Option.bind_eq_some_iff.mp hread
        cases hnumber
        rw [List.length_append, Bytes.length_ofNat]
        omega

/-- Sixteen octets are all that an address of groups has. -/
theorem length_of_readV6 {text rest : List Char} {bs : Bytes} (h : readV6 text = some (bs, rest)) :
    bs.length = 16 := by
  have hhead := length_readGroups_le 8 true text
  unfold readV6 at h
  generalize readGroups 8 true text = front at h hhead
  obtain ⟨head, dotted, middle⟩ := front
  dsimp only at h hhead
  split at h
  · rename_i hfull
    cases h
    exact hfull
  · split at h
    · cases h
    · obtain ⟨_, -, h⟩ := Option.bind_eq_some_iff.mp h
      obtain ⟨after, -, h⟩ := Option.bind_eq_some_iff.mp h
      have htail := length_readGroups_le (8 - (head.length / 2 + 1)) true after
      cases h
      rw [List.length_append, List.length_append, List.length_replicate]
      omega

/-- Without a colon there is at most a group, or a dotted address. -/
theorem length_readGroups_of_no_colon (room : Nat) (first : Bool) {text : List Char}
    (hcolon : ':' ∉ text) : (readGroups room first text).1.length ≤ 4 := by
  have hlater (room : Nat) {rest : List Char} (hrest : ':' ∉ rest) :
      readGroups room false rest = ([], false, rest) := by
    have hnone : expect ':' rest = none := by
      rw [Option.eq_none_iff_forall_ne_some]
      intro after hafter
      rw [expect_eq_some_iff.mp hafter] at hrest
      exact hrest List.mem_cons_self
    cases room with
    | zero => rfl
    | succ room =>
      simp only [readGroups, Bool.false_eq_true, if_false, hnone, Option.bind_none, ite_self]
  cases first with
  | false =>
    rw [hlater room hcolon]
    exact Nat.zero_le _
  | true =>
    cases room with
    | zero => exact Nat.zero_le _
    | succ room =>
      unfold readGroups
      dsimp only
      split
      · rename_i hdotted
        split at hdotted
        · cases hdotted
        · exact (length_of_readV4 hdotted).le
      · split
        · exact Nat.zero_le _
        · rename_i bs rest hread
          have hgroup : group? text = some (bs, rest) := hread
          obtain ⟨used, -, htext, -⟩ := group?_takes hgroup
          have hrest : ':' ∉ rest := by
            rw [htext] at hcolon
            exact fun hmem => hcolon (List.mem_append_right _ hmem)
          obtain ⟨_, -, hnumber⟩ := Option.bind_eq_some_iff.mp hgroup
          cases hnumber
          rw [hlater room hrest, List.append_nil, Bytes.length_ofNat]
          omega

/-- An address of groups has a colon. -/
theorem colon_mem_of_readV6 {text rest : List Char} {bs : Bytes}
    (h : readV6 text = some (bs, rest)) : ':' ∈ text := by
  by_contra hcolon
  have hshort := length_readGroups_of_no_colon 8 true hcolon
  have hmiddle := readGroups_takes 8 true text
  unfold readV6 at h
  generalize readGroups 8 true text = front at h hshort hmiddle
  obtain ⟨head, dotted, middle⟩ := front
  dsimp only at h hshort hmiddle
  split at h
  · omega
  · split at h
    · cases h
    · obtain ⟨after, hafter, -⟩ := Option.bind_eq_some_iff.mp h
      have hmem : ':' ∈ middle := by
        rw [expect_eq_some_iff.mp hafter]
        exact List.mem_cons_self
      rcases hmiddle with hnone | ⟨used, -, rfl, -⟩
      · cases hnone
        exact hcolon hmem
      · exact hcolon (List.mem_append_right _ hmem)

end Soundness

/-- The canonical text of an address spells the address. -/
theorem ofText?_toText {a : Address} (h : a.IsSound) : ofText? a.toText = some a := by
  cases a with
  | v4 octets =>
    match octets, h with
    | [a, b, c, d], _ => rw [toText, ofText?, readV4_textV4]
  | v6 octets =>
    rw [toText, ofText?, readV4_eq_none fun hdot => (isGroupChar_of_mem_textV6 hdot).ne_dot rfl]
    dsimp only
    rw [readV6_textV6 h]

/-- The canonical text of an address consists of hexadecimal digits, colons and dots. -/
theorem eq_dot_or_isGroupChar_of_mem_toText {a : Address} (h : a.IsSound) {c : Char}
    (hc : c ∈ a.toText) : c = '.' ∨ IsGroupChar c := by
  cases a with
  | v4 octets =>
    match octets, h with
    | [a, b, c', d], _ =>
      have hnumber {n : Nat} (hc : c ∈ Nat.toDigits 10 n) : IsGroupChar c := by
        obtain ⟨d, hd, rfl⟩ := exists_digit_of_mem_toDigits (by omega) hc
        exact .inr ⟨d, by omega, rfl⟩
      rw [toText, textV4_eq] at hc
      simp only [List.mem_append, List.mem_cons, List.not_mem_nil, or_false] at hc
      obtain hc | rfl | hc | rfl | hc | rfl | hc := hc
      · exact .inr (hnumber hc)
      · exact .inl rfl
      · exact .inr (hnumber hc)
      · exact .inl rfl
      · exact .inr (hnumber hc)
      · exact .inl rfl
      · exact .inr (hnumber hc)
  | v6 octets => exact .inr (isGroupChar_of_mem_textV6 hc)

/-- The first of two equal runs of zeros is left out, and put in again. -/
example : toText (.v6 [0x20, 1, 0, 0, 0, 0, 0, 9, 0, 0, 0, 0, 0, 0xAB, 0, 1])
    = "2001::9:0:0:ab:1".toList := by decide

end PeerTrust.Address
