import PeerTrust.Domain.Ascii
import PeerTrust.Proofs.ReadEach
import PeerTrust.Proofs.Row

/-!
# What a domain name in ASCII is made of

Each label is refused if it holds a character that no host may have. A spelling in ASCII brings in
nothing but the characters of the label, hyphens and the digits of base 36, so the whole name holds
none of those characters either.

That the spelling can be read back is not considered.
-/

namespace PeerTrust

namespace Punycode

/-- The characters that a spelling may hold beyond those of the label. -/
def IsAdded (c : Char) : Prop :=
  c = '-' ∨ ∃ n < 36, c = digit n

/-- A number of variable length consists of digits. -/
theorem isAdded_of_mem_writeNumber {bias place n : Nat} {c : Char}
    (hc : c ∈ writeNumber bias place n) : IsAdded c := by
  induction n using Nat.strongRecOn generalizing place with
  | ind n ih =>
    have hlow := threshold_pos bias place
    have hhigh : threshold bias place ≤ 26 := Nat.min_le_right _ _
    rw [writeNumber] at hc
    split at hc
    · exact .inr ⟨n, by omega, List.mem_singleton.mp hc⟩
    · rename_i hlarge
      rcases List.mem_cons.mp hc with rfl | hc
      · have hmod := Nat.mod_lt (n - threshold bias place)
          (by omega : 0 < 36 - threshold bias place)
        exact .inr ⟨_, by omega, rfl⟩
      · have hless : (n - threshold bias place) / (36 - threshold bias place) < n :=
          Nat.lt_of_le_of_lt (Nat.div_le_self _ _) (by omega)
        exact ih _ hless hc

/-- A character of the label adds digits to what is written, or nothing. -/
theorem mem_output_of_writeChar {plain code x : Nat} {w : Writing} {c : Char}
    (hc : c ∈ (writeChar plain code w x).output) : c ∈ w.output ∨ IsAdded c := by
  unfold writeChar at hc
  split at hc
  · exact .inl hc
  · split at hc
    · exact (List.mem_append.mp hc).imp_right isAdded_of_mem_writeNumber
    · exact .inl hc

theorem mem_output_of_foldl_writeChar {plain code : Nat} {label : List Nat} {w : Writing} {c : Char}
    (hc : c ∈ (label.foldl (writeChar plain code) w).output) : c ∈ w.output ∨ IsAdded c := by
  induction label generalizing w with
  | nil => exact .inl hc
  | cons x label ih => exact (ih hc).elim mem_output_of_writeChar .inr

/-- Writing the characters beyond ASCII adds digits only. -/
theorem mem_output_of_writeCodes {plain code : Nat} {label codes : List Nat} {w : Writing}
    {c : Char} (hc : c ∈ (writeCodes plain label codes code w).output) :
    c ∈ w.output ∨ IsAdded c := by
  induction codes generalizing code w with
  | nil => exact .inl hc
  | cons x codes ih => exact (ih hc).elim mem_output_of_foldl_writeChar .inr

/-- A spelling holds characters of the label, hyphens and digits. -/
theorem mem_label_or_isAdded {label : List Char} {c : Char} (hc : c ∈ encode label) :
    c ∈ label ∨ IsAdded c := by
  rcases mem_output_of_writeCodes hc with hstart | hadded
  · dsimp only at hstart
    split at hstart
    · cases hstart
    · rcases List.mem_append.mp hstart with hplain | hhyphen
      · exact .inl (List.mem_of_mem_filter hplain)
      · exact .inr (.inl (List.mem_singleton.mp hhyphen))
  · exact .inr hadded

end Punycode

namespace Domain

/-- What a spelling brings in may stand in a host. -/
theorem isForbidden_of_isAdded {c : Char} (h : Punycode.IsAdded c) : isForbidden c = false := by
  have hdigits : ∀ n < 36, isForbidden (Punycode.digit n) = false := by decide
  obtain rfl | ⟨n, hn, rfl⟩ := h
  · decide
  · exact hdigits n hn

/-- A label in ASCII holds only characters that may stand in a host. -/
theorem isForbidden_of_mem_ascii {text : List Char} {l : Label} (h : Label.ofText? text = some l)
    {c : Char} (hc : c ∈ l.ascii) : isForbidden c = false := by
  unfold Label.ofText? at h
  split at h
  · cases h
  · rename_i hallowed
    rw [List.any_eq_true, not_exists] at hallowed
    have htext {c : Char} (hc : c ∈ text) : isForbidden c = false := by
      simpa [hc] using hallowed c
    split at h
    · obtain ⟨chars, -, rfl⟩ := Option.map_eq_some_iff.mp h
      exact htext hc
    · split at h
      · cases h
        exact htext hc
      · split at h
        · cases h
        · cases h
          rcases List.mem_append.mp hc with hmark | hspelled
          · have hmarks : spellingMark.all (!isForbidden ·) = true := by decide
            simpa using List.all_eq_true.mp hmarks c hmark
          · exact (Punycode.mem_label_or_isAdded hspelled).elim htext isForbidden_of_isAdded

/-- A domain name in ASCII holds only characters that may stand in a host. -/
theorem isForbidden_of_mem_toAscii? {name spelled : List Char} (h : toAscii? name = some spelled)
    {c : Char} (hc : c ∈ spelled) : isForbidden c = false := by
  obtain ⟨labels, hlabels, rfl⟩ := Option.map_eq_some_iff.mp h
  obtain ⟨mapped, -, hlabels⟩ := Option.bind_eq_some_iff.mp hlabels
  obtain ⟨read, hread, hlabels⟩ := Option.bind_eq_some_iff.mp hlabels
  have hsame : read = labels := by
    split at hlabels
    · exact Option.some.inj hlabels
    · cases hlabels
  subst hsame
  rw [intercalate_map] at hc
  rcases mem_of_mem_row hc with rfl | ⟨l, hl, hmem⟩
  · decide
  · obtain ⟨source, -, hsource⟩ := exists_source_of_mapM hread hl
    exact isForbidden_of_mem_ascii hsource hmem

end Domain

end PeerTrust
