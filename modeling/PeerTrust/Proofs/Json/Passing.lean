import Mathlib.Data.List.DropRight
import PeerTrust.Json.Reader
import PeerTrust.Proofs.Outcome

/-!
# Values that are read and values that are passed over

A value is read for what it says or passed over by its syntax alone. Where reading succeeds, passing
over the same text succeeds as well and ends at the same place, so what a document holds can be
told without knowing which of its values are wanted.

Passing over takes fuel. Every character takes at most one step inside a string and two steps
elsewhere, so each lemma asks for fuel by the length of the text only.
-/

namespace PeerTrust.Json

variable {text rest : List Char}

section Strings

/-! ### Strings -/

theorem readHex4_length {n : Nat} (h : readHex4 text = .ok (n, rest)) :
    rest.length < text.length := by
  unfold readHex4 at h
  split at h
  · split at h
    · simp only [Except.ok.injEq, Prod.mk.injEq] at h
      rw [← h.2]
      simp only [List.length_cons]
      omega
    · cases h
  · split at h <;> cases h

theorem skipEscape_length (h : skipEscape text = .ok rest) : rest.length < text.length := by
  unfold skipEscape at h
  split at h
  · cases h
  · obtain ⟨⟨n, after⟩, hhex, rfl⟩ := map_eq_ok_iff.mp h
    exact Nat.lt_succ_of_lt (readHex4_length hhex)
  · split at h
    · cases h
      exact Nat.lt_succ_self _
    · cases h

/-- The second half of a character is an escape of its own. -/
theorem skipEscape_of_readSecondHalf {first : Nat} {c : Char}
    (h : readSecondHalf first text = .ok (c, rest)) :
    ∃ middle, text = '\\' :: middle ∧ skipEscape middle = .ok rest := by
  unfold readSecondHalf at h
  split at h
  · cases h
  · cases h
  · rename_i after
    obtain ⟨⟨n, after'⟩, hhex, h⟩ := bind_eq_ok_iff.mp h
    dsimp only at h
    split at h
    · simp only [Except.ok.injEq, Prod.mk.injEq] at h
      refine ⟨_, rfl, ?_⟩
      exact map_eq_ok_iff.mpr ⟨_, hhex, h.2⟩
    · cases h
  · cases h
  · cases h

/-- An escape that is read is one that is passed over, or two of them. -/
theorem skipEscape_of_readEscape {c : Char} (h : readEscape text = .ok (c, rest)) :
    skipEscape text = .ok rest ∨
      ∃ middle, skipEscape text = .ok ('\\' :: middle) ∧ skipEscape middle = .ok rest := by
  unfold readEscape at h
  split at h
  · cases h
  · rename_i after
    obtain ⟨⟨n, after'⟩, hhex, h⟩ := bind_eq_ok_iff.mp h
    have hskip : skipEscape ('u' :: after) = .ok after' := map_eq_ok_iff.mpr ⟨_, hhex, rfl⟩
    dsimp only at h
    split at h
    · cases h
    · split at h
      · obtain ⟨middle, rfl, hrest⟩ := skipEscape_of_readSecondHalf h
        exact .inr ⟨middle, hskip, hrest⟩
      · simp only [Except.ok.injEq, Prod.mk.injEq] at h
        rw [hskip, h.2]
        exact .inl rfl
  · rename_i d after hletter
    split at h
    · rename_i hshort
      simp only [Except.ok.injEq, Prod.mk.injEq] at h
      rw [skipEscape, hshort, h.2]
      · exact .inl rfl
      · exact hletter
    · cases h

/-- A string that is read is one that is passed over. -/
theorem skipStringBody_of_readStringBody {fuel fuel' : Nat} {cs : List Char}
    (h : readStringBody fuel text = .ok (cs, rest)) (hfuel : text.length < fuel') :
    skipStringBody fuel' text = .ok rest := by
  induction fuel generalizing text cs fuel' with
  | zero => cases h
  | succ fuel ih =>
    obtain ⟨room, rfl⟩ : ∃ room, fuel' = room + 1 := ⟨fuel' - 1, by omega⟩
    cases text with
    | nil => cases h
    | cons c text =>
      rw [List.length_cons] at hfuel
      rw [readStringBody] at h
      rw [skipStringBody]
      split at h
      · rename_i hquote
        cases h
        rw [if_pos hquote]
      · rename_i hquote
        rw [if_neg hquote]
        split at h
        · rename_i hescape
          rw [if_pos hescape]
          obtain ⟨⟨d, after⟩, hread, h⟩ := bind_eq_ok_iff.mp h
          obtain ⟨⟨more, after'⟩, hmore, h⟩ := bind_eq_ok_iff.mp h
          cases h
          -- a character that two escapes spell takes two steps when it is passed over
          rcases skipEscape_of_readEscape hread with hone | ⟨middle, hfirst, hsecond⟩
          · have hshorter := skipEscape_length hone
            exact bind_eq_ok_iff.mpr ⟨after, hone, ih hmore (by omega)⟩
          · have hshorter := skipEscape_length hfirst
            have hshorter' := skipEscape_length hsecond
            rw [List.length_cons] at hshorter
            obtain ⟨room, rfl⟩ : ∃ left, room = left + 1 := ⟨room - 1, by omega⟩
            refine bind_eq_ok_iff.mpr ⟨_, hfirst, ?_⟩
            rw [skipStringBody, if_neg (by decide), if_pos rfl]
            exact bind_eq_ok_iff.mpr ⟨after, hsecond, ih hmore (by omega)⟩
        · rename_i hescape
          rw [if_neg hescape]
          split at h
          · cases h
          · rename_i hcontrol
            rw [if_neg hcontrol]
            obtain ⟨⟨more, after'⟩, hmore, h⟩ := bind_eq_ok_iff.mp h
            cases h
            exact ih hmore (by omega)

theorem skipStringBody_length {fuel : Nat} (h : skipStringBody fuel text = .ok rest) :
    rest.length < text.length := by
  induction fuel generalizing text with
  | zero => cases h
  | succ fuel ih =>
    cases text with
    | nil => cases h
    | cons c text =>
      rw [List.length_cons]
      rw [skipStringBody] at h
      split at h
      · cases h
        exact Nat.lt_succ_self _
      · split at h
        · obtain ⟨middle, hescape, h⟩ := bind_eq_ok_iff.mp h
          have hshorter := skipEscape_length hescape
          have hshorter' := ih h
          omega
        · split at h
          · cases h
          · have hshorter := ih h
            omega

/-- A string that is read is one that is passed over. -/
theorem skipString_of_readString {s : String} (h : readString text = .ok (s, rest)) :
    skipString text = .ok rest := by
  obtain ⟨⟨cs, after⟩, hbody, h⟩ := bind_eq_ok_iff.mp h
  cases h
  exact skipStringBody_of_readStringBody hbody (Nat.lt_succ_self _)

end Strings

section Values

/-! ### Values -/

theorem wrongType_ne_ok {α : Type} {expected : String} {a : α} :
    wrongType expected text ≠ .ok a := by
  -- whatever value is found, the last step is to stop
  intro h
  unfold wrongType at h
  dsimp only at h
  split at h
  case h_8 =>
    split at h <;> simp [bind_eq_ok_iff, stopAt] at h
  all_goals simp [bind_eq_ok_iff, stopAt] at h

@[simp] theorem skipSpace_skipSpace (text : List Char) :
    skipSpace (skipSpace text) = skipSpace text :=
  List.dropWhile_idempotent isSpace text

theorem skipSpace_length_le (text : List Char) : (skipSpace text).length ≤ text.length :=
  (List.dropWhile_suffix isSpace).length_le

theorem readText_length {s : String} (h : readText text = .ok (s, rest)) :
    rest.length < text.length := by
  have hspace := skipSpace_length_le text
  unfold readText at h
  split at h
  · cases h
  · rename_i start hquote
    rw [hquote, List.length_cons] at hspace
    have hshorter := skipStringBody_length (skipString_of_readString h)
    omega
  · exact absurd h wrongType_ne_ok

/-- Blanks in front of a value do not matter. -/
theorem skipValueBody_skipSpace (fuel : Nat) (text : List Char) :
    skipValueBody (fuel + 1) (skipSpace text) = skipValueBody (fuel + 1) text := by
  rw [skipValueBody, skipValueBody, skipSpace_skipSpace]

/-- A string value that is read is one that is passed over. -/
theorem skipValueBody_of_readText {fuel : Nat} {s : String}
    (h : readText text = .ok (s, rest)) : skipValueBody (fuel + 1) text = .ok rest := by
  unfold readText at h
  rw [skipValueBody]
  split at h
  · cases h
  · rename_i after hquote
    rw [hquote]
    exact skipString_of_readString h
  · exact absurd h wrongType_ne_ok

theorem skipValueBody_of_readUnit {fuel : Nat} (h : readUnit text = .ok rest) :
    skipValueBody (fuel + 1) text = .ok rest := by
  unfold readUnit at h
  rw [skipValueBody]
  split at h
  · cases h
  · rename_i after hnull
    rw [hnull]
    exact h
  · exact absurd h wrongType_ne_ok

theorem skipValueBody_of_readOptionalText {fuel : Nat} {s : Option String}
    (h : readOptionalText text = .ok (s, rest)) : skipValueBody (fuel + 1) text = .ok rest := by
  unfold readOptionalText at h
  split at h
  · rename_i after hnull
    obtain ⟨after', hword, h⟩ := bind_eq_ok_iff.mp h
    cases h
    rw [skipValueBody, hnull]
    exact hword
  · obtain ⟨⟨s, after⟩, htext, h⟩ := bind_eq_ok_iff.mp h
    cases h
    rw [← skipValueBody_skipSpace]
    exact skipValueBody_of_readText htext

/-- Where a list goes on, passing over it is passing over an element and going on. -/
theorem skipElements_of_more (fuel : Nat) {first : Bool} {start : List Char}
    (h : nextElement first text = .ok (true, start)) :
    skipElements (fuel + 2) first text
        = (skipValueBody (fuel + 1) start).bind (skipElements (fuel + 1) false)
      ∧ start.length ≤ text.length := by
  have hspace := skipSpace_length_le text
  unfold nextElement at h
  rw [skipElements]
  split at h
  · cases h
  · cases h
  · rename_i c after hclose hstart
    rw [hstart] at hspace
    split at h
    · rename_i hfirst
      cases h
      rw [if_pos hfirst]
      refine ⟨?_, hspace⟩
      cases skipValueBody (fuel + 1) (c :: after) <;> rfl
    · rename_i hfirst
      rw [if_neg hfirst]
      split at h
      · rename_i hcomma
        have hspace' := skipSpace_length_le after
        rw [List.length_cons] at hspace
        rw [if_pos hcomma, ← skipValueBody_skipSpace]
        split at h
        · cases h
        · cases h
        · cases h
          refine ⟨?_, by omega⟩
          cases skipValueBody (fuel + 1) (skipSpace after) <;> rfl
      · cases h

/-- Where a list ends, passing over it takes the closing bracket. -/
theorem skipElements_of_end (fuel : Nat) {first : Bool} {start : List Char}
    (h : nextElement first text = .ok (false, start)) :
    ∃ after, start = ']' :: after ∧ skipElements (fuel + 1) first text = .ok after := by
  unfold nextElement at h
  rw [skipElements]
  split at h
  · cases h
  · cases h
    exact ⟨_, rfl, rfl⟩
  · split at h
    · cases h
    · split at h
      · split at h <;> cases h
      · cases h

/-- A list of strings that is read is passed over up to its closing bracket. -/
theorem skipElements_of_readTexts {fuel fuel' : Nat} {first : Bool} {texts : List String}
    (h : readTexts fuel first text = .ok (texts, rest)) (hfuel : text.length + 1 < fuel') :
    ∃ after, rest = ']' :: after ∧ skipElements fuel' first text = .ok after := by
  induction fuel generalizing text texts first fuel' with
  | zero => cases h
  | succ fuel ih =>
    obtain ⟨room, rfl⟩ : ∃ left, fuel' = left + 2 := ⟨fuel' - 2, by omega⟩
    rw [readTexts] at h
    obtain ⟨⟨more, start⟩, hnext, h⟩ := bind_eq_ok_iff.mp h
    cases more with
    | false =>
      cases h
      exact skipElements_of_end _ hnext
    | true =>
      obtain ⟨⟨s, after⟩, htext, h⟩ := bind_eq_ok_iff.mp h
      obtain ⟨⟨others, after'⟩, hothers, h⟩ := bind_eq_ok_iff.mp h
      cases h
      obtain ⟨hskip, hstart⟩ := skipElements_of_more room hnext
      have hshorter := readText_length htext
      rw [hskip, skipValueBody_of_readText htext]
      exact ih hothers (by omega)

/-- A member is passed over by its key, its colon and its value. -/
theorem skipMember_of_value {fuel : Nat} {key value after : List Char}
    (hkey : skipSpace text = '"' :: key) (hcolon : (skipString key).bind readColon = .ok value)
    (hvalue : skipValueBody fuel value = .ok after) :
    skipMember (fuel + 1) text = skipMembers fuel false after := by
  rw [skipMember, hkey]
  simp only [hcolon, hvalue]

/-- A compound value that is read has been read inside, and its end follows. -/
theorem inside_of_closing {α : Type} {close : List Char → List Char × Option Stop}
    {inside : Except Stop (α × List Char)} {a : α}
    (h : closing close inside = .ok (a, rest)) :
    ∃ before, inside = .ok (a, before) ∧ close before = (rest, none) := by
  unfold closing at h
  split at h
  · split at h
    · rename_i hclose
      cases h
      exact ⟨_, rfl, hclose⟩
    · cases h
  · split at h <;> cases h

/-- A list of strings that is read is one that is passed over. -/
theorem skipValueBody_of_readTextList {fuel : Nat} {texts : List String}
    (h : readTextList text = .ok (texts, rest)) (hfuel : text.length < fuel) :
    skipValueBody (fuel + 1) text = .ok rest := by
  have hspace := skipSpace_length_le text
  unfold readTextList at h
  rw [skipValueBody]
  split at h
  · cases h
  · rename_i start hbracket
    rw [hbracket, List.length_cons] at hspace
    rw [hbracket]
    obtain ⟨before, hread, hclose⟩ := inside_of_closing h
    have hroom : start.length + 1 < fuel := by omega
    obtain ⟨after, rfl, hskip⟩ := skipElements_of_readTexts hread hroom
    cases hclose
    exact hskip
  · exact absurd h wrongType_ne_ok

end Values

end PeerTrust.Json
