import PeerTrust.Path.LeafHost
import PeerTrust.Proofs.Host.Rule

/-!
# The depth of the hosts that a certificate's name covers

A name in a certificate is meant to cover hosts of its own depth only: label for label, where one
asterisk in front may stand for one label. The name is tested for two asterisks before blanks are
taken off it, and read as a pattern afterwards, so the intention fails for exactly the names with
blanks in front of `**.` and a suffix; every other name keeps to it.
-/

namespace PeerTrust

namespace Text

/-- A label in front of a separator is the first part of a text. -/
theorem splitAll_append_cons {sep : Char} {label : List Char} (hlabel : sep ∉ label)
    (rest : List Char) : splitAll sep (label ++ sep :: rest) = label :: splitAll sep rest := by
  induction label with
  | nil => simp [splitAll]
  | cons c label ih =>
    simp only [List.mem_cons, not_or] at hlabel
    rw [List.cons_append, splitAll, if_neg (Ne.symm hlabel.1), ih hlabel.2]

end Text

namespace Path

open PeerTrust.HostRule

/-- The labels of a host or of a name, between the dots of its normal form. -/
def labelsOf (text : List Char) : List (List Char) :=
  Text.splitAll '.' (normalHost text)

/-- A host agrees with a name label by label, where an asterisk as the name's leftmost label stands
for one label that is not empty. -/
def AgreesByLabel (name host : List Char) : Prop :=
  labelsOf host = labelsOf name ∨
    ∃ label rest, labelsOf name = ['*'] :: rest ∧ labelsOf host = label :: rest ∧ label ≠ []

/-- A name that means hosts at every depth and hides it: blanks stand in front of `**.` and a
suffix. -/
def HidesAnyDepth (name : List Char) : Prop :=
  (∃ c ∈ name.head?, Text.isBlank c = true) ∧
    ∃ suffix, normalHost name = '*' :: '*' :: '.' :: suffix ∧
      HostPattern.isPlainSuffix suffix = true

/-- Hosts that agree with a name by label have as many labels as the name. -/
theorem AgreesByLabel.length_eq {name host : List Char} (h : AgreesByLabel name host) :
    (labelsOf host).length = (labelsOf name).length := by
  rcases h with h | ⟨label, rest, hname, hhost, -⟩
  · rw [h]
  · rw [hname, hhost, List.length_cons, List.length_cons]

/-- A name covers a host when it does not begin with two asterisks and spells a rule that does. -/
theorem nameCovers_iff {name : List Char} {host : String} :
    nameCovers name host = true ↔
      (∀ rest, name ≠ '*' :: '*' :: rest) ∧
        ∃ rule, Spelled (normalHost name) rule ∧
          rule.covers (normalHost host.toList) = true := by
  unfold nameCovers
  split
  · simp
  · rename_i hstars
    have hform (p : HostPattern) := @HostPattern.ofString_eq_ok_iff (String.ofList name) p
    simp only [String.toList_ofList] at hform
    constructor
    · intro h
      split at h
      · rename_i p hread
        exact ⟨hstars, p.rule, ((hform p).mp hread).2, h⟩
      · simp at h
    · rintro ⟨-, rule, hspelled, hcovers⟩
      rw [(hform ⟨_, rule⟩).mpr ⟨rfl, hspelled⟩]
      exact hcovers

/-- A name that means every depth begins with its two asterisks unless a blank stands in front. -/
theorem head_blank_of_anyDepth {name suffix : List Char}
    (hform : normalHost name = '*' :: '*' :: '.' :: suffix)
    (hstars : ∀ rest, name ≠ '*' :: '*' :: rest) : ∃ c ∈ name.head?, Text.isBlank c = true := by
  by_contra hblank
  have hkept : name.dropWhile Text.isBlank = name := by
    cases name with
    | nil => rfl
    | cons c rest => exact List.dropWhile_cons_of_neg (by simpa using hblank)
  obtain ⟨start, ⟨after, hafter⟩, hlower⟩ := exists_prefix_normalHost name
  rw [hform] at hlower
  rw [hkept] at hafter
  obtain _ | ⟨a, _ | ⟨b, rest⟩⟩ := start
  · simp [Text.lowerAscii] at hlower
  · simp [Text.lowerAscii] at hlower
  · simp only [Text.lowerAscii, List.map_cons, List.cons.injEq] at hlower
    have ha := Text.eq_of_toLower_eq (by decide) hlower.1.symm
    have hb := Text.eq_of_toLower_eq (by decide) hlower.2.1.symm
    subst ha hb
    exact hstars _ hafter.symm

/-- A name covers only hosts that agree with it label by label, unless it hides that it means every
depth. -/
theorem agreesByLabel_of_nameCovers {name : List Char} {host : String}
    (hvisible : ¬HidesAnyDepth name) (hcovers : nameCovers name host = true) :
    AgreesByLabel name host.toList := by
  obtain ⟨hstars, rule, hspelled, hrule⟩ := nameCovers_iff.mp hcovers
  generalize hform : normalHost name = form at hspelled
  cases hspelled with
  | exact hne hstar =>
    left
    rw [labelsOf, labelsOf, hform, eq_of_beq hrule]
  | @oneLabel suffix hplain =>
    right
    obtain ⟨label, hlabel, hdot, hhost⟩ := covers_oneLabel_iff.mp hrule
    refine ⟨label, Text.splitAll '.' suffix, ?_, ?_, hlabel⟩
    · have hasterisk : '.' ∉ ['*'] := by decide
      rw [labelsOf, hform]
      exact Text.splitAll_append_cons hasterisk suffix
    · rw [labelsOf, hhost, Text.splitAll_append_cons hdot]
  | anyDepth hplain =>
    exact absurd ⟨head_blank_of_anyDepth hform hstars, _, hform, hplain⟩ hvisible

/-- A name that hides that it means every depth covers the hosts with given labels above its
suffix. -/
theorem nameCovers_of_hidesAnyDepth {name suffix : List Char} (labels : List Char)
    (hblank : ∃ c ∈ name.head?, Text.isBlank c = true)
    (hform : normalHost name = '*' :: '*' :: '.' :: suffix)
    (hplain : HostPattern.isPlainSuffix suffix = true) (hne : labels ≠ [])
    (hhead : Text.isBlank (labels.head hne) = false) (hlower : Text.lowerAscii labels = labels) :
    nameCovers name (String.ofList (labels ++ '.' :: suffix ++ ['.'])) = true ∧
      normalHost (labels ++ '.' :: suffix ++ ['.']) = labels ++ '.' :: suffix := by
  have hsuffix : suffix ≠ [] := by
    rintro rfl
    simp [HostPattern.isPlainSuffix] at hplain
  have hlast : (labels ++ '.' :: suffix).getLast? ≠ some '.' := by
    have hdot := getLast?_normalHost_ne_dot name
    rw [hform] at hdot
    simpa [List.getLast?_cons, List.getLast?_append, hsuffix] using hdot
  have hlowerSuffix : Text.lowerAscii suffix = suffix := by
    have hlow := lowerAscii_normalHost name
    rw [hform] at hlow
    simpa [Text.lowerAscii] using hlow
  have hnormal : normalHost (labels ++ '.' :: suffix ++ ['.']) = labels ++ '.' :: suffix := by
    have hwhole : labels ++ '.' :: suffix ≠ [] := by simp
    refine normalHost_append_dot hwhole ?_ hlast ?_
    · rwa [List.head_append_of_ne_nil hne]
    · simp only [Text.lowerAscii, List.map_append, List.map_cons] at hlower hlowerSuffix ⊢
      rw [hlower, hlowerSuffix]
      rfl
  refine ⟨nameCovers_iff.mpr ⟨?_, .anyDepth suffix, ?_, ?_⟩, hnormal⟩
  · rintro rest rfl
    obtain ⟨c, hc, hblank⟩ := hblank
    simp only [List.head?_cons, Option.mem_def, Option.some.injEq] at hc
    subst hc
    exact absurd hblank (by decide)
  · exact hform ▸ .anyDepth hplain
  · rw [String.toList_ofList, hnormal, covers_anyDepth_iff]
    exact .inr ⟨labels, hne, rfl⟩

/-- A name that hides that it means every depth covers hosts of different depths. -/
theorem exists_depths_of_hidesAnyDepth {name : List Char} (hhides : HidesAnyDepth name) :
    ∃ a b, nameCovers name a = true ∧ nameCovers name b = true ∧
      (labelsOf a.toList).length ≠ (labelsOf b.toList).length := by
  obtain ⟨hblank, suffix, hform, hplain⟩ := hhides
  obtain ⟨hshallow, hone⟩ := nameCovers_of_hidesAnyDepth ['a'] hblank hform hplain
    (by decide) (by decide) (by decide)
  obtain ⟨hdeep, htwo⟩ := nameCovers_of_hidesAnyDepth ['a', '.', 'a'] hblank hform hplain
    (by decide) (by decide) (by decide)
  refine ⟨_, _, hshallow, hdeep, ?_⟩
  simp only [labelsOf, String.toList_ofList, hone, htwo]
  simp [Text.splitAll]

/-- A name covers only hosts that agree with it label by label, and only hosts of one depth, exactly
when it does not hide that it means every depth. -/
theorem agreesByLabel_iff (name : List Char) :
    ((∀ host, nameCovers name host = true → AgreesByLabel name host.toList) ↔
      ¬HidesAnyDepth name) ∧
    ((∀ a b, nameCovers name a = true → nameCovers name b = true →
      (labelsOf a.toList).length = (labelsOf b.toList).length) ↔ ¬HidesAnyDepth name) := by
  have hagree (hvisible : ¬HidesAnyDepth name) (host : String)
      (hcovers : nameCovers name host = true) : AgreesByLabel name host.toList :=
    agreesByLabel_of_nameCovers hvisible hcovers
  refine ⟨⟨?_, hagree⟩, ⟨?_, ?_⟩⟩
  · intro hlabels hhides
    obtain ⟨a, b, ha, hb, hdepth⟩ := exists_depths_of_hidesAnyDepth hhides
    exact hdepth ((hlabels a ha).length_eq.trans (hlabels b hb).length_eq.symm)
  · intro hdepths hhides
    obtain ⟨a, b, ha, hb, hdepth⟩ := exists_depths_of_hidesAnyDepth hhides
    exact hdepth (hdepths a b ha hb)
  · intro hvisible a b ha hb
    exact (hagree hvisible a ha).length_eq.trans (hagree hvisible b hb).length_eq.symm

/-- A blank in front of `**.example.com` makes the name cover the suffix and a host two labels below
it, and so hosts with which it does not agree. -/
theorem nameCovers_blank_anyDepth :
    nameCovers " **.example.com".toList "a.b.example.com" = true ∧
      nameCovers " **.example.com".toList "example.com" = true ∧
        ¬AgreesByLabel " **.example.com".toList "a.b.example.com".toList := by
  refine ⟨by decide, by decide, ?_⟩
  intro hagrees
  exact absurd hagrees.length_eq (by decide)

end Path

end PeerTrust
