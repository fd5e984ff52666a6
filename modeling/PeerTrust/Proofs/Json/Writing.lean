import PeerTrust.Json.Reader
import PeerTrust.Json.Writer
import PeerTrust.Proofs.Outcome

/-!
# Values that are written are read again

What is written stands in front of a text of any kind, and reading it ends where that text begins.
So the values of an object or of a list are settled one by one, whatever follows them.

A string is written with an escape for some characters and with the character itself for all others,
so it takes at least as many characters as it has, which is enough fuel to read it.
-/

namespace PeerTrust.Json

variable {α : Type} {rest : List Char}

section Strings

/-! ### Strings -/

theorem value?_digit {n : Nat} (h : n < 16) : Hex.value? (Hex.digit 'a' n) = some n := by
  revert n
  decide

/-- The escape for a control character: four hexadecimal digits, the first two of them zero. -/
theorem readEscape_of_control {c : Char} (h : c.toNat < 0x20) (rest : List Char) :
    readEscape ('u' :: '0' :: '0' :: Hex.digit 'a' (c.toNat / 16) :: Hex.digit 'a' (c.toNat % 16) ::
      rest) = .ok (c, rest) := by
  have hzero : Hex.value? '0' = some 0 := by decide
  have hhigh := value?_digit (n := c.toNat / 16) (by omega)
  have hlow := value?_digit (n := c.toNat % 16) (by omega)
  have hnumber : ((0 * 16 + 0) * 16 + c.toNat / 16) * 16 + c.toNat % 16 = c.toNat := by omega
  have hread : readHex4 ('0' :: '0' :: Hex.digit 'a' (c.toNat / 16) ::
      Hex.digit 'a' (c.toNat % 16) :: rest) = .ok (c.toNat, rest) := by
    rw [readHex4, hzero, hhigh, hlow]
    dsimp only
    rw [hnumber]
  rw [readEscape, hread]
  change (if _ then _ else if _ then _ else _) = _
  rw [if_neg (by omega), if_neg (by omega), Char.ofNat_toNat]

/-- A character is written as an escape that stands for it, or as itself where it needs none. -/
theorem writeChar_cases (c : Char) :
    (∃ escape, writeChar c = '\\' :: escape ∧
        ∀ rest, readEscape (escape ++ rest) = .ok (c, rest)) ∨
      (writeChar c = [c] ∧ c ≠ '"' ∧ c ≠ '\\' ∧ ¬c.toNat < 0x20) := by
  unfold writeChar
  -- seven characters have a letter of their own
  iterate 7
    split
    · rename_i hc
      subst hc
      exact .inl ⟨_, rfl, fun _ => rfl⟩
  split
  · rename_i hcontrol
    exact .inl ⟨_, rfl, readEscape_of_control hcontrol⟩
  · rename_i hquote hbackslash _ _ _ _ _ hplain
    exact .inr ⟨rfl, hquote, hbackslash, hplain⟩

theorem length_writeChar_pos (c : Char) : 0 < (writeChar c).length := by
  obtain ⟨escape, hwrite, -⟩ | ⟨hwrite, -⟩ := writeChar_cases c
  · rw [hwrite]
    exact Nat.succ_pos _
  · rw [hwrite]
    exact Nat.one_pos

/-- One step over a character that is written. -/
theorem readStringBody_writeChar {fuel : Nat} {cs start after : List Char} (c : Char)
    (hmore : readStringBody fuel start = .ok (cs, after)) :
    readStringBody (fuel + 1) (writeChar c ++ start) = .ok (c :: cs, after) := by
  obtain ⟨escape, hwrite, hread⟩ | ⟨hwrite, hquote, hbackslash, hplain⟩ := writeChar_cases c
  · rw [hwrite, List.cons_append, readStringBody, if_neg (by decide), if_pos rfl, hread]
    change (readStringBody fuel start >>= _) = _
    rw [hmore]
    rfl
  · rw [hwrite, List.singleton_append, readStringBody, if_neg hquote, if_neg hbackslash,
      if_neg hplain, hmore]
    rfl

/-- Characters that are written are read up to the closing quote. -/
theorem readStringBody_write {fuel : Nat} (cs : List Char) (hfuel : cs.length < fuel) :
    readStringBody fuel (cs.flatMap writeChar ++ '"' :: rest) = .ok (cs, rest) := by
  induction cs generalizing fuel with
  | nil =>
    obtain ⟨room, rfl⟩ : ∃ room, fuel = room + 1 := ⟨fuel - 1, by omega⟩
    rfl
  | cons c cs ih =>
    rw [List.length_cons] at hfuel
    obtain ⟨room, rfl⟩ : ∃ room, fuel = room + 1 := ⟨fuel - 1, by omega⟩
    rw [List.flatMap_cons, List.append_assoc]
    exact readStringBody_writeChar c (ih (by omega))

theorem length_le_length_flatMap_writeChar (cs : List Char) :
    cs.length ≤ (cs.flatMap writeChar).length := by
  induction cs with
  | nil => exact Nat.le_refl _
  | cons c cs ih =>
    have hpos := length_writeChar_pos c
    rw [List.flatMap_cons, List.length_append, List.length_cons]
    omega

/-- A string that is written starts with a quote, and behind it the string is read. -/
theorem exists_writeString (s : String) (rest : List Char) :
    ∃ start, writeString s ++ rest = '"' :: start ∧ readString start = .ok (s, rest) := by
  refine ⟨s.toList.flatMap writeChar ++ '"' :: rest, ?_, ?_⟩
  · simp only [writeString, List.cons_append, List.append_assoc, List.nil_append]
  · have hlength := length_le_length_flatMap_writeChar s.toList
    rw [readString, readStringBody_write s.toList
      (by rw [List.length_append]; omega)]
    change Except.ok (String.ofList s.toList, rest) = _
    rw [String.ofList_toList]

theorem readText_writeString (s : String) (rest : List Char) :
    readText (writeString s ++ rest) = .ok (s, rest) := by
  obtain ⟨start, hstart, hread⟩ := exists_writeString s rest
  rw [hstart]
  exact hread

theorem readOptionalText_writeString (s : String) (rest : List Char) :
    readOptionalText (writeString s ++ rest) = .ok (some s, rest) := by
  have hread := readText_writeString s rest
  obtain ⟨start, hstart, -⟩ := exists_writeString s rest
  rw [hstart] at hread ⊢
  change (readText ('"' :: start) >>= _) = _
  rw [hread]
  rfl

end Strings

section Separators

/-! ### Separators -/

/-- Parts with separators between them are a first part and others that each follow a separator. -/
theorem intercalate_cons (separator : α) (part : List α) (parts : List (List α)) :
    List.intercalate [separator] (part :: parts) = part ++ parts.flatMap (separator :: ·) := by
  induction parts generalizing part with
  | nil => rw [List.intercalate_singleton, List.flatMap_nil, List.append_nil]
  | cons next parts ih =>
    rw [List.intercalate_cons_cons, ih, List.flatMap_cons, List.append_assoc]
    rfl

end Separators

section Lists

/-! ### Lists of strings -/

theorem nextElement_writeString (s : String) (rest : List Char) :
    nextElement true (writeString s ++ rest) = .ok (true, writeString s ++ rest) := by
  obtain ⟨start, hstart, -⟩ := exists_writeString s rest
  rw [hstart]
  rfl

theorem nextElement_comma_writeString (s : String) (rest : List Char) :
    nextElement false (',' :: (writeString s ++ rest)) = .ok (true, writeString s ++ rest) := by
  obtain ⟨start, hstart, -⟩ := exists_writeString s rest
  rw [hstart]
  rfl

/-- One step over an element. -/
theorem readTexts_of_more {fuel : Nat} {first : Bool} {s : String} {others : List String}
    {text start after : List Char}
    (hmore : nextElement first text = .ok (true, writeString s ++ start))
    (hothers : readTexts fuel false start = .ok (others, after)) :
    readTexts (fuel + 1) first text = .ok (s :: others, after) := by
  rw [readTexts, hmore]
  change (readText (writeString s ++ start) >>= _) = _
  rw [readText_writeString]
  change (readTexts fuel false start >>= _) = _
  rw [hothers]
  rfl

/-- Elements that each follow a comma are read up to the closing bracket. -/
theorem readTexts_write {fuel : Nat} (l : List String) (hfuel : l.length < fuel) :
    readTexts fuel false (l.flatMap (',' :: writeString ·) ++ ']' :: rest) =
      .ok (l, ']' :: rest) := by
  induction l generalizing fuel with
  | nil =>
    obtain ⟨room, rfl⟩ : ∃ room, fuel = room + 1 := ⟨fuel - 1, by omega⟩
    rfl
  | cons s l ih =>
    rw [List.length_cons] at hfuel
    obtain ⟨room, rfl⟩ : ∃ room, fuel = room + 1 := ⟨fuel - 1, by omega⟩
    rw [List.flatMap_cons, List.append_assoc]
    exact readTexts_of_more (nextElement_comma_writeString s _) (ih (by omega))

theorem length_le_length_flatMap_comma (write : α → List Char) (l : List α) :
    l.length ≤ (l.flatMap (',' :: write ·)).length := by
  induction l with
  | nil => exact Nat.le_refl _
  | cons a l ih =>
    rw [List.flatMap_cons, List.length_append, List.length_cons, List.length_cons]
    omega

/-- All elements are read, the first of which follows no comma. -/
theorem readTexts_intercalate {fuel : Nat} (l : List String) (hfuel : l.length < fuel) :
    readTexts fuel true (List.intercalate [','] (l.map writeString) ++ ']' :: rest) =
      .ok (l, ']' :: rest) := by
  obtain ⟨room, rfl⟩ : ∃ room, fuel = room + 1 := ⟨fuel - 1, by omega⟩
  cases l with
  | nil => rfl
  | cons s l =>
    rw [List.length_cons] at hfuel
    rw [List.map_cons, intercalate_cons, List.flatMap_map, List.append_assoc]
    exact readTexts_of_more (nextElement_writeString s _) (readTexts_write l (by omega))

theorem length_le_length_intercalate (write : α → List Char) (l : List α)
    (hwrite : ∀ a, 0 < (write a).length) :
    l.length ≤ (List.intercalate [','] (l.map write)).length := by
  cases l with
  | nil => exact Nat.le_refl _
  | cons a l =>
    have hfirst := hwrite a
    have hothers := length_le_length_flatMap_comma write l
    rw [List.map_cons, intercalate_cons, List.flatMap_map, List.length_append, List.length_cons]
    omega

/-- A list of strings that is written is read again. -/
theorem readTextList_writeStrings (l : List String) (rest : List Char) :
    readTextList (writeStrings l ++ rest) = .ok (l, rest) := by
  have hlength := length_le_length_intercalate writeString l fun _ => Nat.succ_pos _
  have hstart : writeStrings l ++ rest =
      '[' :: (List.intercalate [','] (l.map writeString) ++ ']' :: rest) := by
    simp only [writeStrings, List.cons_append, List.append_assoc, List.nil_append]
  rw [hstart]
  change closing closeList (readTexts _ true _) = _
  rw [readTexts_intercalate l (by rw [List.length_cons, List.length_append]; omega)]
  rfl

end Lists

section Members

/-! ### Members of objects -/

/-- A member of an object with its value written already. -/
def writeMember (m : String × List Char) : List Char :=
  writeString m.1 ++ ':' :: m.2

/-- An object that is written is its members with commas between them. -/
theorem writeObject_append (members : List (String × List Char)) (rest : List Char) :
    writeObject members ++ rest =
      '\x7b' :: (List.intercalate [','] (members.map writeMember) ++ '\x7d' :: rest) := by
  change ('\x7b' :: List.intercalate [','] (members.map writeMember) ++ ['\x7d']) ++ rest = _
  simp only [List.cons_append, List.append_assoc, List.nil_append]

theorem nextKey_writeString (s : String) (rest : List Char) :
    nextKey true (writeString s ++ rest) = .ok (some s, rest) := by
  obtain ⟨start, hstart, hread⟩ := exists_writeString s rest
  rw [hstart]
  change (readString start).map _ = _
  rw [hread]
  rfl

theorem nextKey_comma_writeString (s : String) (rest : List Char) :
    nextKey false (',' :: (writeString s ++ rest)) = .ok (some s, rest) := by
  obtain ⟨start, hstart, hread⟩ := exists_writeString s rest
  rw [hstart]
  change (readString start).map _ = _
  rw [hread]
  rfl

end Members

end PeerTrust.Json
