import PeerTrust.Host.Address
import PeerTrust.Proofs.Host.Rule

/-!
# The texts of addresses

An address is spelled by digits, colons and dots alone and ends in no dot, so a text with blanks
around it or a dot at its end spells none. Letters may be of either case. A host that spells an
address is therefore in its normal form already, letters apart, and the form spells the same
address.
-/

namespace PeerTrust

/-- A text that has no blanks around it and no dots at its end. -/
def IsBare (text : List Char) : Prop :=
  Text.dropEndWhile (· = '.') (Text.trim text) = text

instance : DecidablePred IsBare :=
  fun text => inferInstanceAs (Decidable (Text.dropEndWhile (· = '.') (Text.trim text) = text))

namespace Address

/-- The range of characters in which the digits, the colon and the dot lie. There is neither a
blank nor an asterisk in it. -/
def IsPlain (c : Char) : Prop :=
  '.' ≤ c ∧ c ≤ 'f'

instance : DecidablePred IsPlain :=
  fun c => inferInstanceAs (Decidable ('.' ≤ c ∧ c ≤ 'f'))

/-- What is left after a stretch of plain characters that does not end in a dot. -/
def Takes (text rest : List Char) : Prop :=
  ∃ used, used ≠ [] ∧ text = used ++ rest ∧ (∀ c ∈ used, IsPlain c) ∧ used.getLast? ≠ some '.'

/-- A plain character is no blank. -/
theorem IsPlain.isBlank {c : Char} (h : IsPlain c) : Text.isBlank c = false := by
  have hlow : 46 ≤ c.toNat := h.1
  have hhigh : c.toNat ≤ 102 := h.2
  simp only [Text.isBlank, Bool.or_eq_false_iff, Bool.and_eq_false_iff, decide_eq_false_iff_not]
  omega

/-- A character in front of a stretch makes it longer. -/
theorem Takes.cons {c : Char} {text rest : List Char} (hc : IsPlain c)
    (h : Takes text rest) : Takes (c :: text) rest := by
  obtain ⟨used, hne, rfl, hplain, hlast⟩ := h
  refine ⟨c :: used, List.cons_ne_nil _ _, rfl, List.forall_mem_cons.mpr ⟨hc, hplain⟩, ?_⟩
  rwa [List.getLast?_cons_of_ne_nil hne]

/-- Two stretches are one. -/
theorem Takes.trans {text middle rest : List Char} (h : Takes text middle)
    (h' : Takes middle rest) : Takes text rest := by
  obtain ⟨used, hne, rfl, hplain, -⟩ := h
  obtain ⟨more, hne', rfl, hplain', hlast⟩ := h'
  refine ⟨used ++ more, List.append_ne_nil_of_left_ne_nil hne _, (List.append_assoc _ _ _).symm,
    ?_, ?_⟩
  · intro c hc
    exact (List.mem_append.mp hc).elim (hplain c) (hplain' c)
  · rwa [List.getLast?_append_of_ne_nil _ hne']

/-- A text that is one stretch is bare. -/
theorem Takes.isBare {text : List Char} (h : Takes text []) : IsBare text := by
  obtain ⟨used, hne, rfl, hplain, hlast⟩ := h
  have hfront : used.dropWhile Text.isBlank = used := by
    cases used with
    | nil => rfl
    | cons c used =>
      exact List.dropWhile_cons_of_neg (by simp [(hplain c List.mem_cons_self).isBlank])
  have hkept {p : Char → Bool} (hp : p (used.getLast hne) = false) :
      Text.dropEndWhile p used = used := by
    change List.rdropWhile p used = used
    rw [List.rdropWhile_eq_self_iff]
    intro _
    simp [hp]
  rw [List.append_nil, IsBare, Text.trim, hfront,
    hkept (hplain _ (List.getLast_mem hne)).isBlank, hkept]
  rw [List.getLast?_eq_some_getLast hne] at hlast
  simpa using hlast

/-- A character is read when it stands in front. -/
theorem expect_eq_some_iff {c : Char} {text rest : List Char} :
    expect c text = some rest ↔ text = c :: rest := by
  cases text with
  | nil => simp [expect]
  | cons d text =>
    simp only [expect]
    split
    · rename_i h
      simp [h]
    · rename_i h
      simp [h]

/-- What a function gives the value of digits is to satisfy: digits are plain and no dots, and
their case does not matter. -/
structure IsDigitValue (value : Char → Option Nat) : Prop where
  plain : ∀ c, (value c).isSome = true → IsPlain c ∧ c ≠ '.'
  caseless : ∀ c, value c.toLower = value c

/-- The characters from one above the dot to one up to `f` are plain and no dots. -/
theorem plain_of_le {low c high : Char} (hdot : '.' < low) (hlow : low ≤ c) (hhigh : c ≤ high)
    (hend : high ≤ 'f') : IsPlain c ∧ c ≠ '.' := by
  have hstrict : '.'.toNat < c.toNat := Nat.lt_of_lt_of_le hdot hlow
  refine ⟨⟨Nat.le_of_lt hstrict, Char.le_trans hhigh hend⟩, ?_⟩
  rintro rfl
  exact Nat.lt_irrefl _ hstrict

theorem isDigitValue_decimal? : IsDigitValue decimal? := by
  constructor
  · intro c hc
    unfold decimal? at hc
    split at hc
    · rename_i h
      exact plain_of_le (by decide) h.1 h.2 (by decide)
    · cases hc
  · exact Text.apply_toLower (by decide)

theorem isDigitValue_hex : IsDigitValue Hex.value? := by
  constructor
  · intro c hc
    unfold Hex.value? at hc
    split at hc
    · rename_i h
      exact plain_of_le (by decide) h.1 h.2 (by decide)
    · split at hc
      · rename_i h
        exact plain_of_le (by decide) h.1 h.2 (by decide)
      · split at hc
        · rename_i h
          exact plain_of_le (by decide) h.1 h.2 (by decide)
        · cases hc
  · exact Text.apply_toLower (by decide)

section Stretches

/-! ### What an address takes off a text -/

variable {text rest : List Char}

theorem number?_takes {value : Char → Option Nat} (hvalue : IsDigitValue value)
    {base limit n : Nat} (h : number? value base limit text = some (n, rest)) :
    Takes text rest := by
  unfold number? at h
  dsimp only at h
  split at h
  · cases h
  · rename_i hsome
    rw [not_or, List.isEmpty_iff] at hsome
    simp only [Option.some.injEq, Prod.mk.injEq] at h
    obtain ⟨-, rfl⟩ := h
    have hdigit (c : Char) (hc : c ∈ text.takeWhile fun c => (value c).isSome) :
        IsPlain c ∧ c ≠ '.' := by
      have hsome := List.mem_takeWhile_imp hc
      exact hvalue.plain c hsome
    refine ⟨_, hsome.1, ?_, fun c hc => (hdigit c hc).1, ?_⟩
    · exact (List.prefix_iff_eq_append.mp (List.takeWhile_prefix _)).symm
    · intro hdot
      exact (hdigit '.' (List.mem_of_getLast? hdot)).2 rfl

theorem octet?_takes {b : UInt8} (h : octet? text = some (b, rest)) : Takes text rest := by
  obtain ⟨⟨n, after⟩, hnumber, h⟩ := Option.bind_eq_some_iff.mp h
  dsimp only at h
  split at h
  · cases h
    exact number?_takes isDigitValue_decimal? hnumber
  · cases h

theorem group?_takes {bs : Bytes} (h : group? text = some (bs, rest)) : Takes text rest := by
  obtain ⟨⟨n, after⟩, hnumber, h⟩ := Option.bind_eq_some_iff.mp h
  cases h
  exact number?_takes isDigitValue_hex hnumber

theorem readV4_takes {bs : Bytes} (h : readV4 text = some (bs, rest)) : Takes text rest := by
  simp only [readV4, Option.bind_eq_bind, Option.bind_eq_some_iff, expect_eq_some_iff,
    Option.pure_def, Option.some.injEq, Prod.mk.injEq, Prod.exists] at h
  obtain ⟨_, _, ha, _, rfl, _, _, hb, _, rfl, _, _, hc, _, rfl, _, _, hd, -, rfl⟩ := h
  have hdot : IsPlain '.' := by decide
  exact (octet?_takes ha).trans <| .cons hdot <| (octet?_takes hb).trans <| .cons hdot <|
    (octet?_takes hc).trans <| .cons hdot <| octet?_takes hd

theorem readGroups_takes (room : Nat) (first : Bool) (text : List Char) :
    readGroups room first text = ([], false, text) ∨
      Takes text (readGroups room first text).2.2 := by
  induction room generalizing first text with
  | zero => exact .inl rfl
  | succ room ih =>
    -- a group begins at once if it is the first, else after a colon
    have hstart {start rest : List Char} (htakes : Takes start rest)
        (h : (if first then some text else expect ':' text) = some start) : Takes text rest := by
      split at h
      · rwa [Option.some.inj h]
      · rw [expect_eq_some_iff.mp h]
        exact htakes.cons (by decide)
    unfold readGroups
    dsimp only
    split
    · rename_i bs rest hdotted
      split at hdotted
      · cases hdotted
      · obtain ⟨start, hbegin, hread⟩ := Option.bind_eq_some_iff.mp hdotted
        exact .inr (hstart (readV4_takes hread) hbegin)
    · split
      · exact .inl rfl
      · rename_i bs rest hgroup
        obtain ⟨start, hbegin, hread⟩ := Option.bind_eq_some_iff.mp hgroup
        have htakes := hstart (group?_takes hread) hbegin
        rcases ih false rest with hnone | hmore
        · rw [hnone]
          exact .inr htakes
        · exact .inr (htakes.trans hmore)

theorem readV6_takes {bs : Bytes} (h : readV6 text = some (bs, rest)) : Takes text rest := by
  have hhead := readGroups_takes 8 true text
  unfold readV6 at h
  generalize readGroups 8 true text = front at h hhead
  obtain ⟨head, dotted, middle⟩ := front
  dsimp only at h hhead
  split at h
  · rename_i hfull
    simp only [Option.pure_def, Option.some.injEq, Prod.mk.injEq] at h
    obtain ⟨-, rfl⟩ := h
    rcases hhead with hnone | htakes
    · simp only [Prod.mk.injEq] at hnone
      rw [hnone.1] at hfull
      cases hfull
    · exact htakes
  · split at h
    · cases h
    · simp only [Option.bind_eq_bind, Option.bind_eq_some_iff, expect_eq_some_iff,
        Option.pure_def, Option.some.injEq, Prod.mk.injEq] at h
      obtain ⟨_, hmiddle, after, rfl, -, hrest⟩ := h
      have hgap : Takes middle rest := by
        have hcolon : IsPlain ':' := by decide
        have hcolons : Takes middle after :=
          ⟨[':', ':'], List.cons_ne_nil _ _, hmiddle,
            List.forall_mem_cons.mpr ⟨hcolon, List.forall_mem_singleton.mpr hcolon⟩, by decide⟩
        rcases readGroups_takes (8 - (head.length / 2 + 1)) true after with hnone | htail
        · rw [hnone] at hrest
          rwa [← hrest]
        · rw [hrest] at htail
          exact hcolons.trans htail
      rcases hhead with hnone | htakes
      · simp only [Prod.mk.injEq] at hnone
        rwa [← hnone.2.2]
      · exact htakes.trans hgap

theorem ofText?_takes {a : Address} (h : ofText? text = some a) : Takes text [] := by
  unfold ofText? at h
  split at h
  · rename_i hread
    exact readV4_takes hread
  · cases h
  · split at h
    · rename_i hread
      exact readV6_takes hread
    · cases h

end Stretches

section Case

/-! ### Letters of either case -/

/-- A reader for which the case of letters does not matter. -/
def Caseless {α : Type} (read : List Char → Option (α × List Char)) : Prop :=
  ∀ text, read (Text.lowerAscii text) = (read text).map (Prod.map id Text.lowerAscii)

theorem Caseless.pure {α : Type} (a : α) : Caseless fun rest => some (a, rest) :=
  fun _ => rfl

theorem Caseless.bind {α β : Type} {read : List Char → Option (α × List Char)}
    {next : α → List Char → Option (β × List Char)} (hread : Caseless read)
    (hnext : ∀ a, Caseless (next a)) :
    Caseless fun text => (read text).bind fun p => next p.1 p.2 := by
  intro text
  simp only [hread text]
  cases read text with
  | none => rfl
  | some p => exact hnext p.1 p.2

theorem expect_lowerAscii {c : Char} (hc : c.isLower = false) (hsame : c.toLower = c)
    (text : List Char) :
    expect c (Text.lowerAscii text) = (expect c text).map Text.lowerAscii := by
  cases text with
  | nil => rfl
  | cons d rest =>
    have hchar : d.toLower = c ↔ d = c := by
      constructor
      · exact Text.eq_of_toLower_eq hc
      · rintro rfl
        exact hsame
    change (if d.toLower = c then some (Text.lowerAscii rest) else none) =
      (if d = c then some rest else none).map Text.lowerAscii
    by_cases hd : d = c
    · rw [if_pos (hchar.mpr hd), if_pos hd]
      rfl
    · rw [if_neg (hd ∘ hchar.mp), if_neg hd]
      rfl

theorem Caseless.after {α : Type} {c : Char} {next : List Char → Option (α × List Char)}
    (hc : c.isLower = false) (hsame : c.toLower = c) (hnext : Caseless next) :
    Caseless fun text => (expect c text).bind next := by
  intro text
  simp only [expect_lowerAscii hc hsame]
  cases expect c text with
  | none => rfl
  | some rest => exact hnext rest

theorem number?_caseless {value : Char → Option Nat} (hvalue : IsDigitValue value)
    (base limit : Nat) : Caseless (number? value base limit) := by
  intro text
  have hdigits : (Text.lowerAscii text).takeWhile (fun c => (value c).isSome) =
      Text.lowerAscii (text.takeWhile fun c => (value c).isSome) := by
    have hsame : (fun c => (value c).isSome) ∘ Char.toLower = fun c => (value c).isSome := by
      funext c
      rw [Function.comp_apply, hvalue.caseless]
    rw [Text.lowerAscii, Text.lowerAscii, List.takeWhile_map, hsame]
  simp only [number?, hdigits]
  simp only [Text.lowerAscii, List.isEmpty_map, List.length_map, List.foldl_map,
    hvalue.caseless, ← List.map_drop]
  split
  · rfl
  · rfl

theorem octet?_caseless : Caseless octet? := by
  intro text
  have hzero : (Text.lowerAscii text).head? = some '0' ↔ text.head? = some '0' := by
    cases text with
    | nil => exact Iff.rfl
    | cons c rest =>
      simp only [Text.lowerAscii, List.map_cons, List.head?_cons, Option.some.injEq]
      constructor
      · exact Text.eq_of_toLower_eq (by decide)
      · rintro rfl
        decide
  simp only [octet?, number?_caseless isDigitValue_decimal? 10 3 text]
  cases number? decimal? 10 3 text with
  | none => rfl
  | some p =>
    obtain ⟨n, rest⟩ := p
    have hlength (l : List Char) : (Text.lowerAscii l).length = l.length := List.length_map _
    simp only [Option.map_some, Prod.map_apply, id_eq, Option.bind_eq_bind, Option.bind_some,
      hzero, hlength]
    split
    · rfl
    · rfl

theorem group?_caseless : Caseless group? := by
  exact (number?_caseless isDigitValue_hex 16 4).bind fun n => .pure _

theorem readV4_caseless : Caseless readV4 := by
  have hdot {α : Type} {next : List Char → Option (α × List Char)} (hnext : Caseless next) :
      Caseless fun text => (expect '.' text).bind next :=
    hnext.after (by decide) (by decide)
  exact octet?_caseless.bind fun a => hdot <| octet?_caseless.bind fun b => hdot <|
    octet?_caseless.bind fun c => hdot <| octet?_caseless.bind fun d => .pure [a, b, c, d]

theorem readGroups_lowerAscii (room : Nat) (first : Bool) (text : List Char) :
    readGroups room first (Text.lowerAscii text) =
      (readGroups room first text).map id (Prod.map id Text.lowerAscii) := by
  induction room generalizing first text with
  | zero => rfl
  | succ room ih =>
    have hstart : (if first then some (Text.lowerAscii text)
        else expect ':' (Text.lowerAscii text)) =
          (if first then some text else expect ':' text).map Text.lowerAscii := by
      split
      · rfl
      · exact expect_lowerAscii (by decide) (by decide) text
    simp only [readGroups, hstart]
    generalize (if first then some text else expect ':' text) = start
    have hread {α : Type} {read : List Char → Option (α × List Char)} (hread : Caseless read) :
        (start.map Text.lowerAscii).bind read =
          (start.bind read).map (Prod.map id Text.lowerAscii) := by
      cases start with
      | none => rfl
      | some start => exact hread start
    have hdotted : (if room = 0 then none else (start.map Text.lowerAscii).bind readV4) =
        (if room = 0 then none else start.bind readV4).map (Prod.map id Text.lowerAscii) := by
      split
      · rfl
      · exact hread readV4_caseless
    rw [hdotted, hread group?_caseless]
    cases if room = 0 then none else start.bind readV4 with
    | some _ => rfl
    | none =>
      cases start.bind group? with
      | none => rfl
      | some p =>
        obtain ⟨bs, rest⟩ := p
        simp only [Option.map_some, Option.map_none, Prod.map_apply, id_eq, ih]
        rfl

theorem readV6_caseless : Caseless readV6 := by
  intro text
  simp only [readV6, readGroups_lowerAscii 8 true text]
  obtain ⟨head, dotted, middle⟩ := readGroups 8 true text
  simp only [Prod.map_apply, id_eq]
  split
  · rfl
  · split
    · rfl
    · have htail (room : Nat) (make : Bytes → Bytes) : Caseless fun rest =>
          some (make (readGroups room true rest).1, (readGroups room true rest).2.2) := by
        intro rest
        simp only [readGroups_lowerAscii]
        rfl
      have hcolon {next : List Char → Option (Bytes × List Char)} (hnext : Caseless next) :
          Caseless fun text => (expect ':' text).bind next :=
        hnext.after (by decide) (by decide)
      exact hcolon (hcolon (htail (8 - (head.length / 2 + 1)) fun tail =>
        head ++ List.replicate (16 - head.length - tail.length) 0 ++ tail)) middle

/-- A text spells the same address in lower case. -/
theorem ofText?_lowerAscii (text : List Char) :
    ofText? (Text.lowerAscii text) = ofText? text := by
  simp only [ofText?, readV4_caseless text, readV6_caseless text]
  cases readV4 text with
  | some p =>
    obtain ⟨bs, rest⟩ := p
    cases rest with
    | nil => rfl
    | cons => rfl
  | none =>
    cases readV6 text with
    | none => rfl
    | some p =>
      obtain ⟨bs, rest⟩ := p
      cases rest with
      | nil => rfl
      | cons => rfl

end Case

/-- A text that spells an address is made of plain characters. -/
theorem isPlain_of_ofText? {text : List Char} {a : Address} (h : ofText? text = some a) :
    text ≠ [] ∧ ∀ c ∈ text, IsPlain c := by
  obtain ⟨used, hne, htext, hplain, -⟩ := ofText?_takes h
  rw [List.append_nil] at htext
  rw [htext]
  exact ⟨hne, hplain⟩

/-- A text that spells an address is bare. -/
theorem isBare_of_ofText? {text : List Char} {a : Address} (h : ofText? text = some a) :
    IsBare text :=
  (ofText?_takes h).isBare

/-- A host whose normal form spells an address spells one itself exactly when it is bare. -/
theorem ofText?_iff_isBare {text : List Char} {a : Address}
    (h : ofText? (normalHost text) = some a) : ofText? text = some a ↔ IsBare text := by
  constructor
  · exact isBare_of_ofText?
  · intro hbare
    rw [← ofText?_lowerAscii]
    rwa [normalHost, hbare] at h

end Address

end PeerTrust
