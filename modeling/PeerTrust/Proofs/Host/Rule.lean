import Mathlib.Data.List.DropRight
import PeerTrust.Host.Pattern

/-!
# Normal forms of hosts and the rules that patterns spell

A pattern and a host meet in one normal form. The form of a pattern alone decides which rule the
pattern spells, and the form of a host alone decides whether a rule covers it. Each rule covers the
hosts of one equation between the two forms.
-/

namespace PeerTrust

namespace Text

/-- What holds of the ASCII capitals holds of every character that lower case changes. -/
theorem forall_capital {p : Char → Prop} (hletters : ∀ n < 26, p (Char.ofNat (65 + n))) (c : Char) :
    p c ∨ c.toLower = c := by
  by_cases hupper : 65 ≤ c.val ∧ c.val ≤ 90
  · have hbounds : 65 ≤ c.toNat ∧ c.toNat ≤ 90 := by
      rwa [UInt32.le_iff_toNat_le, UInt32.le_iff_toNat_le] at hupper
    have hletter := hletters (c.toNat - 65) (by omega)
    rw [Nat.add_sub_cancel' hbounds.1, Char.ofNat_toNat] at hletter
    exact .inl hletter
  · exact .inr (dif_neg hupper)

/-- A function of characters that takes the ASCII letters of either case alike takes all characters
and their lower-case forms alike. -/
theorem apply_toLower {β : Type} {f : Char → β}
    (hletters : ∀ n < 26, f (Char.ofNat (65 + n)).toLower = f (Char.ofNat (65 + n))) (c : Char) :
    f c.toLower = f c := by
  rcases forall_capital (p := fun c => f c.toLower = f c) hletters c with hsame | hsame
  · exact hsame
  · rw [hsame]

/-- A character that is no lower-case letter is the lower-case form of itself alone. -/
theorem eq_of_toLower_eq {c d : Char} (hd : d.isLower = false) (h : c.toLower = d) : c = d := by
  have hletters : ∀ n < 26, (Char.ofNat (65 + n)).toLower.isLower = true := by decide
  rcases forall_capital (p := fun c => c.toLower.isLower = true) hletters c with hlower | hsame
  · rw [h, hd] at hlower
    cases hlower
  · exact hsame.symm.trans h

/-- Lowering letters twice is lowering them once. -/
@[simp] theorem lowerAscii_lowerAscii (text : List Char) :
    lowerAscii (lowerAscii text) = lowerAscii text := by
  have hchar : ∀ c : Char, c.toLower.toLower = c.toLower :=
    apply_toLower (f := Char.toLower) (by decide)
  simp only [lowerAscii, List.map_map]
  exact List.map_congr_left fun c _ => hchar c

/-- What trimming leaves begins with no blank. -/
theorem dropWhile_trim (text : List Char) : (trim text).dropWhile isBlank = trim text := by
  obtain ⟨after, hafter⟩ : trim text <+: text.dropWhile isBlank :=
    List.rdropWhile_prefix isBlank _
  cases htrim : trim text with
  | nil => rfl
  | cons c rest =>
    have hhead := List.head?_dropWhile_not isBlank text
    rw [← hafter, htrim] at hhead
    exact List.dropWhile_cons_of_neg (by simpa using hhead)

/-- Trimming twice is trimming once. -/
@[simp] theorem trim_trim (text : List Char) : trim (trim text) = trim text := by
  conv_lhs => rw [trim, dropWhile_trim]
  exact List.rdropWhile_idempotent isBlank _

end Text

/-- Blanks around a text do not show in its normal form. -/
@[simp] theorem normalHost_trim (text : List Char) :
    normalHost (Text.trim text) = normalHost text := by
  simp only [normalHost, Text.trim_trim]

/-- A normal form holds no upper-case letter. -/
@[simp] theorem lowerAscii_normalHost (text : List Char) :
    Text.lowerAscii (normalHost text) = normalHost text :=
  Text.lowerAscii_lowerAscii _

/-- A normal form is the beginning of a text behind its blanks, in lower case. -/
theorem exists_prefix_normalHost (text : List Char) :
    ∃ start, start <+: text.dropWhile Text.isBlank ∧ normalHost text = Text.lowerAscii start :=
  ⟨_, (List.rdropWhile_prefix _ _).trans (List.rdropWhile_prefix _ _), rfl⟩

/-- What is neither a blank nor a dot keeps its place in the normal form. -/
theorem toLower_mem_normalHost {c : Char} {text : List Char} (hblank : Text.isBlank c = false)
    (hdot : c ≠ '.') (hmem : c ∈ text) : c.toLower ∈ normalHost text := by
  have hkept {p : Char → Bool} {l : List Char} (hp : p c = false) (hl : c ∈ l) :
      c ∈ l.dropWhile p := by
    rw [← List.takeWhile_append_dropWhile (p := p) (l := l), List.mem_append] at hl
    rcases hl with hl | hl
    · exact absurd (List.mem_takeWhile_imp hl) (by simp [hp])
    · exact hl
  have htrim : c ∈ Text.trim text :=
    List.mem_reverse.mpr (hkept hblank (List.mem_reverse.mpr (hkept hblank hmem)))
  have hdots : c ∈ Text.dropEndWhile (· = '.') (Text.trim text) :=
    List.mem_reverse.mpr (hkept (decide_eq_false hdot) (List.mem_reverse.mpr htrim))
  exact List.mem_map_of_mem hdots

/-- What stands in a normal form is the lower-case form of what stands in the text. -/
theorem exists_mem_of_mem_normalHost {d : Char} {text : List Char} (hmem : d ∈ normalHost text) :
    ∃ c ∈ text, c.toLower = d := by
  obtain ⟨start, hstart, hform⟩ := exists_prefix_normalHost text
  rw [hform] at hmem
  obtain ⟨c, hc, hlower⟩ := List.mem_map.mp hmem
  exact ⟨c, (List.dropWhile_sublist _).mem (hstart.mem hc), hlower⟩

/-- A normal form does not end in a dot. -/
theorem getLast?_normalHost_ne_dot (text : List Char) : (normalHost text).getLast? ≠ some '.' := by
  intro hdot
  simp only [normalHost, Text.lowerAscii, List.getLast?_map, Option.map_eq_some_iff] at hdot
  obtain ⟨c, hlast, hlower⟩ := hdot
  have hc := Text.eq_of_toLower_eq (by decide) hlower
  obtain ⟨front, hfront⟩ := List.getLast?_eq_some_iff.mp hlast
  have hkept : List.rdropWhile (· = '.') (Text.trim text) = front ++ ['.'] := hc ▸ hfront
  have hagain := List.rdropWhile_idempotent (· = '.') (Text.trim text)
  rw [hkept, List.rdropWhile_concat_pos _ _ _ (by decide)] at hagain
  have hshort := (List.rdropWhile_prefix (· = '.') front).length_le
  rw [hagain, List.length_append, List.length_singleton] at hshort
  omega

/-- A text in lower case between a character that is no blank and one that is no dot is the normal
form of itself with a dot behind. -/
theorem normalHost_append_dot {text : List Char} (hne : text ≠ [])
    (hhead : Text.isBlank (text.head hne) = false) (hlast : text.getLast? ≠ some '.')
    (hlower : Text.lowerAscii text = text) : normalHost (text ++ ['.']) = text := by
  have htrim : Text.trim (text ++ ['.']) = text ++ ['.'] := by
    have hfront : (text ++ ['.']).dropWhile Text.isBlank = text ++ ['.'] := by
      cases text with
      | nil => exact absurd rfl hne
      | cons c rest => exact List.dropWhile_cons_of_neg (by simpa using hhead)
    rw [Text.trim, hfront]
    exact List.rdropWhile_concat_neg _ _ _ (by decide)
  have hdots : Text.dropEndWhile (· = '.') (text ++ ['.']) = text := by
    change List.rdropWhile (· = '.') (text ++ ['.']) = text
    rw [List.rdropWhile_concat_pos _ _ _ (by decide), List.rdropWhile_eq_self_iff]
    intro _ hdot
    apply hlast
    rw [List.getLast?_eq_some_getLast hne, decide_eq_true_eq.mp hdot]
  rw [normalHost, htrim, hdots, hlower]

/-- What stands in front of a suffix and the dot before it is what the suffix completes. -/
theorem labelsBefore?_eq_some_iff {host suffix labels : List Char} :
    labelsBefore? host suffix = some labels ↔ host = labels ++ '.' :: suffix := by
  unfold labelsBefore? dropEnding?
  constructor
  · intro h
    split at h
    · rename_i hsuffix
      obtain ⟨front, hfront⟩ := List.isSuffixOf_iff_suffix.mp hsuffix
      subst hfront
      simp only [Option.some.injEq] at h
      rw [← h, List.length_append, Nat.add_sub_cancel, List.take_left]
    · simp at h
  · rintro rfl
    have hsuffix : ('.' :: suffix).isSuffixOf (labels ++ '.' :: suffix) = true :=
      List.isSuffixOf_iff_suffix.mpr (List.suffix_append _ _)
    rw [if_pos hsuffix, List.length_append, Nat.add_sub_cancel, List.take_left]

namespace HostRule

/-- A rule for one label covers what puts one label before the suffix. -/
theorem covers_oneLabel_iff {host suffix : List Char} :
    (oneLabel suffix).covers host = true ↔
      ∃ label, label ≠ [] ∧ '.' ∉ label ∧ host = label ++ '.' :: suffix := by
  simp only [covers]
  constructor
  · intro h
    split at h
    · rename_i label hlabel
      rw [labelsBefore?_eq_some_iff] at hlabel
      simp only [Bool.and_eq_true, Bool.not_eq_true', List.isEmpty_eq_false_iff,
        List.contains_eq_mem, decide_eq_false_iff_not] at h
      exact ⟨label, h.1, h.2, hlabel⟩
    · simp at h
  · rintro ⟨label, hne, hdot, hhost⟩
    rw [labelsBefore?_eq_some_iff.mpr hhost]
    simp [hne, hdot]

/-- A rule for any depth covers the suffix and what puts labels before it. -/
theorem covers_anyDepth_iff {host suffix : List Char} :
    (anyDepth suffix).covers host = true ↔
      host = suffix ∨ ∃ labels, labels ≠ [] ∧ host = labels ++ '.' :: suffix := by
  simp only [covers, Bool.or_eq_true, beq_iff_eq]
  refine or_congr_right ?_
  constructor
  · intro h
    split at h
    · rename_i labels hlabels
      rw [labelsBefore?_eq_some_iff] at hlabels
      exact ⟨labels, by simpa using h, hlabels⟩
    · simp at h
  · rintro ⟨labels, hne, hhost⟩
    rw [labelsBefore?_eq_some_iff.mpr hhost]
    simpa using hne

/-- How a normal form spells a rule. -/
inductive Spelled : List Char → HostRule → Prop
  | exact {host : List Char} (hne : host ≠ []) (hstar : '*' ∉ host) : Spelled host (exact host)
  | oneLabel {suffix : List Char} (hplain : HostPattern.isPlainSuffix suffix = true) :
    Spelled ('*' :: '.' :: suffix) (oneLabel suffix)
  | anyDepth {suffix : List Char} (hplain : HostPattern.isPlainSuffix suffix = true) :
    Spelled ('*' :: '*' :: '.' :: suffix) (anyDepth suffix)

end HostRule

/-- A pattern is read exactly when the normal form of its text spells a rule. -/
theorem HostPattern.ofString_eq_ok_iff {s : String} {p : HostPattern} :
    HostPattern.ofString s = .ok p ↔
      p.text = String.ofList (Text.trim s.toList) ∧
        HostRule.Spelled (normalHost s.toList) p.rule := by
  simp only [ofString, normalHost_trim]
  constructor
  · intro h
    split at h
    · simp at h
    · rename_i suffix hform
      split at h
      · rename_i hplain
        simp only [Except.ok.injEq] at h
        subst h
        exact ⟨rfl, hform ▸ .anyDepth hplain⟩
      · simp at h
    · rename_i suffix hform
      split at h
      · rename_i hplain
        simp only [Except.ok.injEq] at h
        subst h
        exact ⟨rfl, hform ▸ .oneLabel hplain⟩
      · simp at h
    · rename_i hempty _ _
      split at h
      · simp at h
      · rename_i hstar
        simp only [Except.ok.injEq] at h
        subst h
        exact ⟨rfl, .exact hempty (by simpa using hstar)⟩
  · obtain ⟨text, rule⟩ := p
    rintro ⟨rfl, hspelled⟩
    generalize normalHost s.toList = form at hspelled
    cases hspelled with
    | exact hne hstar =>
      split
      · exact absurd rfl hne
      · simp at hstar
      · simp at hstar
      · simp [hstar]
    | oneLabel hplain => simp [hplain]
    | anyDepth hplain => simp [hplain]

end PeerTrust
