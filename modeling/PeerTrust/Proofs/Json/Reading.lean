import PeerTrust.Proofs.Json.Spelling

/-!
# What is read of a value

A reader of strings, of lists of strings or of words gets from a text what the value that the text
spells says, or nothing if the value is of another kind. How the text spells the value makes no
difference, and what stands behind the text is left.

Which fault a reader tells where it gets nothing is not considered.
-/

namespace PeerTrust.Json

variable {text rest blank : List Char}

section Strings

/-! ### Strings -/

/-- An escape is read as what it stands for, and the string goes on behind it. -/
theorem toOption_readStringBody_escape (fuel : Nat) (text : List Char) :
    (readStringBody (fuel + 1) ('\\' :: text)).toOption
      = (readEscape text).toOption.bind fun escape =>
        (readStringBody fuel escape.2).toOption.map fun more => (escape.1 :: more.1, more.2) := by
  rw [readStringBody, if_neg (by decide), if_pos rfl, toOption_bind]
  congr
  funext escape
  obtain ⟨d, after⟩ := escape
  dsimp only
  cases readStringBody fuel after <;> rfl

/-- A character of a string is read in one step, however it is spelled. -/
theorem toOption_readStringBody_char {c : Char} (h : SpellsPiece (.char c) text) (fuel : Nat)
    (rest : List Char) :
    (readStringBody (fuel + 1) (text ++ rest)).toOption
      = (readStringBody fuel rest).toOption.map fun more => (c :: more.1, more.2) := by
  generalize hp : Piece.char c = p at h
  cases h with
  | plain quote slash visible =>
    cases hp
    simp only [List.singleton_append, readStringBody, quote, slash, Nat.not_lt.mpr visible, if_false]
    cases readStringBody fuel rest <;> rfl
  | @short letter _ hmem =>
    cases hp
    obtain ⟨hletter, hu⟩ := shortEscape?_of_mem hmem
    have hescape : readEscape (letter :: rest) = .ok (c, rest) := by
      rw [readEscape, hletter]
      simpa using hu
    rw [List.cons_append, List.singleton_append, toOption_readStringBody_escape, hescape]
    rfl
  | hex => cases hp

/-- Sixteen bits are given by four digits. -/
theorem SpellsPiece.exists_digits {n : Nat} (h : SpellsPiece (.unit n) text) :
    ∃ digits, text = '\\' :: 'u' :: digits ∧
      ∀ rest, readHex4 (digits ++ rest) = .ok (n, rest) := by
  generalize hp : Piece.unit n = p at h
  cases h with
  | plain | short => cases hp
  | hex ha hb hc hd =>
    cases hp
    exact ⟨_, rfl, readHex4_cons ha hb hc hd⟩

/-- The first half of a character goes with the second half behind it. -/
theorem toOption_readSecondHalf_unit {m : Nat} (h : SpellsPiece (.unit m) text) (first : Nat)
    (rest : List Char) :
    (readSecondHalf first (text ++ rest)).toOption
      = if IsSecondHalf m then
          some (Char.ofNat ((first - 0xD800) * 0x400 + (m - 0xDC00) + 0x10000), rest)
        else none := by
  obtain ⟨digits, rfl, hdigits⟩ := h.exists_digits
  rw [List.cons_append, List.cons_append, readSecondHalf, hdigits]
  change Except.toOption (if IsSecondHalf m then _ else _) = _
  split <;> rfl

/-- With anything else behind it, the first half of a character is left over. -/
theorem toOption_readSecondHalf_of_no_unit {pieces : List Piece} (h : SpellsPieces pieces text)
    (hpieces : ∀ m more, pieces ≠ .unit m :: more) (first : Nat) (rest : List Char) :
    (readSecondHalf first (text ++ '"' :: rest)).toOption = none := by
  cases h with
  | nil => rfl
  | cons hfirst _ =>
    cases hfirst with
    | plain _ slash _ => simp [readSecondHalf, slash, stopAfter, Except.toOption]
    | short hmem =>
      have hu := (shortEscape?_of_mem hmem).2
      simp [readSecondHalf, hu, stopAfter, Except.toOption]
    | hex => exact absurd rfl (hpieces _ _)

/-- Sixteen bits that are given by number are a character, or the first half of one that the next
sixteen bits complete. -/
theorem toOption_readStringBody_unit {n : Nat} (h : SpellsPiece (.unit n) text) (fuel : Nat)
    (rest : List Char) :
    (readStringBody (fuel + 1) (text ++ rest)).toOption
      = (if IsSecondHalf n then none
        else if IsFirstHalf n then (readSecondHalf n rest).toOption
        else some (Char.ofNat n, rest)).bind fun escape =>
          (readStringBody fuel escape.2).toOption.map fun more => (escape.1 :: more.1, more.2) := by
  obtain ⟨digits, rfl, hdigits⟩ := h.exists_digits
  rw [List.cons_append, List.cons_append, toOption_readStringBody_escape, readEscape, hdigits]
  congr 1
  change Except.toOption (if IsSecondHalf n then _ else if IsFirstHalf n then _ else _) = _
  split
  · rfl
  · split <;> rfl

theorem SpellsPieces.exists_of_cons {p : Piece} {pieces : List Piece}
    (h : SpellsPieces (p :: pieces) text) :
    ∃ start more, text = start ++ more ∧ SpellsPiece p start ∧ SpellsPieces pieces more := by
  cases h with
  | cons hfirst hothers => exact ⟨_, _, rfl, hfirst, hothers⟩

theorem SpellsPiece.length_pos {p : Piece} (h : SpellsPiece p text) : 0 < text.length := by
  cases h <;> simp

/-- A string is read up to its closing quote as the text that it stands for. -/
theorem toOption_readStringBody {pieces : List Piece} (h : SpellsPieces pieces text) {fuel : Nat}
    (hfuel : text.length < fuel) (rest : List Char) :
    (readStringBody fuel (text ++ '"' :: rest)).toOption
      = (textOf? pieces).map fun cs => (cs, rest) := by
  obtain ⟨room, rfl⟩ : ∃ room, fuel = room + 1 := ⟨fuel - 1, by omega⟩
  induction pieces using textOf?.induct generalizing text room with
  | case1 =>
    cases h
    rfl
  | case2 c pieces ih =>
    obtain ⟨start, more, rfl, hfirst, hothers⟩ := h.exists_of_cons
    have hpos := hfirst.length_pos
    rw [List.length_append] at hfuel
    obtain ⟨room, rfl⟩ : ∃ left, room = left + 1 := ⟨room - 1, by omega⟩
    rw [List.append_assoc, toOption_readStringBody_char hfirst, ih hothers _ (by omega), textOf?]
    simp [Function.comp_def]
  | case3 n pieces hsecond =>
    obtain ⟨start, more, rfl, hfirst, -⟩ := h.exists_of_cons
    rw [List.append_assoc, toOption_readStringBody_unit hfirst, if_pos hsecond, textOf?.eq_def]
    dsimp only
    rw [if_pos hsecond]
    rfl
  | case4 n hsecond hhalf m pieces hm ih =>
    obtain ⟨start, more, rfl, hfirst, hothers⟩ := h.exists_of_cons
    obtain ⟨start', more, rfl, hnext, hothers⟩ := hothers.exists_of_cons
    have hpos := hfirst.length_pos
    rw [List.length_append, List.length_append] at hfuel
    obtain ⟨room, rfl⟩ : ∃ left, room = left + 1 := ⟨room - 1, by omega⟩
    rw [List.append_assoc, toOption_readStringBody_unit hfirst, if_neg hsecond, if_pos hhalf,
      List.append_assoc, toOption_readSecondHalf_unit hnext, if_pos hm, Option.bind_some,
      ih hothers _ (by omega), textOf?, if_neg hsecond, if_pos hhalf, if_pos hm]
    simp [Function.comp_def]
  | case5 n hsecond hhalf m pieces hm =>
    obtain ⟨start, more, rfl, hfirst, hothers⟩ := h.exists_of_cons
    obtain ⟨start', more, rfl, hnext, -⟩ := hothers.exists_of_cons
    rw [List.append_assoc, toOption_readStringBody_unit hfirst, if_neg hsecond, if_pos hhalf,
      List.append_assoc, toOption_readSecondHalf_unit hnext, if_neg hm, textOf?, if_neg hsecond,
      if_pos hhalf, if_neg hm]
    rfl
  | case6 n pieces hsecond hhalf hpieces =>
    obtain ⟨start, more, rfl, hfirst, hothers⟩ := h.exists_of_cons
    rw [List.append_assoc, toOption_readStringBody_unit hfirst, if_neg hsecond, if_pos hhalf,
      toOption_readSecondHalf_of_no_unit hothers hpieces, textOf?, if_neg hsecond, if_pos hhalf]
    · rfl
    · exact hpieces
  | case7 n pieces hsecond hhalf ih =>
    obtain ⟨start, more, rfl, hfirst, hothers⟩ := h.exists_of_cons
    have hpos := hfirst.length_pos
    rw [List.length_append] at hfuel
    obtain ⟨room, rfl⟩ : ∃ left, room = left + 1 := ⟨room - 1, by omega⟩
    rw [List.append_assoc, toOption_readStringBody_unit hfirst, if_neg hsecond, if_neg hhalf,
      Option.bind_some, textOf?.eq_def]
    dsimp only
    rw [if_neg hsecond, if_neg hhalf, ih hothers _ (by omega)]
    simp [Function.comp_def]

/-- A string is read up to its closing quote as the text that it stands for. -/
theorem toOption_readString {pieces : List Piece} (h : SpellsPieces pieces text)
    (rest : List Char) :
    (readString (text ++ '"' :: rest)).toOption
      = (textOf? pieces).map fun cs => (String.ofList cs, rest) := by
  have hread := toOption_readStringBody h
    (show text.length < (text ++ '"' :: rest).length + 1 by rw [List.length_append]; omega) rest
  rw [readString, toOption_bind, hread]
  cases textOf? pieces <;> rfl

end Strings

section Kinds

/-! ### Kinds of values -/

theorem toOption_wrongType {α : Type} (expected : String) (text : List Char) :
    (wrongType expected text : Except Stop α).toOption = none := by
  cases hread : (wrongType expected text : Except Stop α) with
  | error _ => rfl
  | ok _ => exact absurd hread wrongType_ne_ok

variable {v : Value}

theorem Value.IsOpenedBy.eq_null (h : v.IsOpenedBy 'n') : v = .null := by
  cases v with
  | null => rfl
  | boolean b => cases b <;> simp [IsOpenedBy] at h
  | number | string | list | object => simp [IsOpenedBy, isDigit] at h

theorem Value.IsOpenedBy.exists_string (h : v.IsOpenedBy '"') : ∃ pieces, v = .string pieces := by
  cases v with
  | string pieces => exact ⟨pieces, rfl⟩
  | boolean b => cases b <;> simp [IsOpenedBy] at h
  | null | number | list | object => simp [IsOpenedBy, isDigit] at h

theorem Value.IsOpenedBy.exists_list (h : v.IsOpenedBy '[') : ∃ items, v = .list items := by
  cases v with
  | list items => exact ⟨items, rfl⟩
  | boolean b => cases b <;> simp [IsOpenedBy] at h
  | null | number | string | object => simp [IsOpenedBy, isDigit] at h

theorem Value.IsOpenedBy.exists_object (h : v.IsOpenedBy '\x7b') :
    ∃ members, v = .object members := by
  cases v with
  | object members => exact ⟨members, rfl⟩
  | boolean b => cases b <;> simp [IsOpenedBy] at h
  | null | number | string | list => simp [IsOpenedBy, isDigit] at h

end Kinds

section Texts

/-! ### Strings, and lists of them -/

variable {v : Value}

theorem toOption_readText_of_ne {c : Char} (hspace : isSpace c = false) (hc : c ≠ '"')
    (more : List Char) : (readText (c :: more)).toOption = none := by
  rw [readText, skipSpace_cons hspace]
  split
  · rename_i heq
    cases heq
  · rename_i heq
    cases heq
    exact absurd rfl hc
  · exact toOption_wrongType _ _

/-- A string value is read as its text, and a value of another kind as nothing. -/
theorem Spells.toOption_readText (h : Spells v text) (rest : List Char) :
    (readText (text ++ rest)).toOption = v.text?.map fun s => (s, rest) := by
  obtain ⟨c, more, rfl, hopen⟩ := h.exists_opening
  by_cases hquote : c = '"'
  · subst hquote
    obtain ⟨pieces, rfl⟩ := hopen.exists_string
    cases h with
    | string hpieces =>
      rw [List.cons_append, List.append_assoc, readText, skipSpace_cons (by decide)]
      change (readString _).toOption = _
      rw [List.singleton_append, toOption_readString hpieces, Value.text?, Option.map_map]
      rfl
  · have hnone : v.text? = none := by
      cases v with
      | string => exact absurd hopen hquote
      | _ => rfl
    rw [hnone]
    exact toOption_readText_of_ne hopen.not_end.1 hquote _

/-- What a value says where a string or null is wanted. -/
def Value.optionalText? : Value → Option (Option String)
  | .null => some none
  | v => v.text?.map some

/-- A string value or null is read as a text that may be missing. -/
theorem Spells.toOption_readOptionalText (h : Spells v text) (hblank : IsBlank blank)
    (rest : List Char) :
    (readOptionalText (blank ++ (text ++ rest))).toOption
      = v.optionalText?.map fun s => (s, rest) := by
  have hread := h.toOption_readText rest
  obtain ⟨c, more, rfl, hopen, hstart⟩ := h.exists_start hblank rest
  rw [readOptionalText, hstart]
  by_cases hnull : c = 'n'
  · subst hnull
    obtain rfl := hopen.eq_null
    cases h
    rfl
  · have hoptional : v.optionalText? = v.text?.map some := by
      cases v with
      | null => exact absurd hopen hnull
      | _ => rfl
    split
    · rename_i heq
      cases heq
      exact absurd rfl hnull
    · rw [toOption_bind, ← List.cons_append, hread, hoptional]
      cases v.text? <;> rfl

/-- What a value says where a list of strings is wanted. -/
def Value.texts? : Value → Option (List String)
  | .list items => items.mapM Value.text?
  | _ => none

theorem readTexts_blank (h : IsBlank blank) (fuel : Nat) (first : Bool) (text : List Char) :
    readTexts (fuel + 1) first (blank ++ text) = readTexts (fuel + 1) first text := by
  rw [readTexts, readTexts, nextElement, nextElement, skipSpace_blank h]

/-- The elements of a list are read one after the other, as long as they are strings. -/
theorem toOption_readTexts {items : List Placed} (hspaced : ∀ p ∈ items, p.IsSpaced)
    (hvalues : ∀ p ∈ items, Spells p.value p.text) (hblank : IsBlank blank) (first : Bool)
    {fuel : Nat} (hfuel : (row ',' Placed.written first items).length < fuel) (rest : List Char) :
    (readTexts fuel first (row ',' Placed.written first items ++ (blank ++ ']' :: rest))).toOption
      = ((items.map (·.value)).mapM Value.text?).map fun texts => (texts, ']' :: rest) := by
  obtain ⟨room, rfl⟩ : ∃ room, fuel = room + 1 := ⟨fuel - 1, by omega⟩
  induction items generalizing first room with
  | nil =>
    rw [row, List.nil_append, readTexts, nextElement_end hblank]
    rfl
  | cons p items ih =>
    obtain ⟨hspaced, hspacedMore⟩ := List.forall_mem_cons.mp hspaced
    obtain ⟨hvalue, hvalues⟩ := List.forall_mem_cons.mp hvalues
    have hpos := hvalue.length_pos
    simp only [row, Placed.written, List.length_append] at hfuel
    obtain ⟨room, rfl⟩ : ∃ left, room = left + 1 := ⟨room - 1, by omega⟩
    have hread := hvalue.toOption_readText
      (p.after ++ (row ',' Placed.written false items ++ (blank ++ ']' :: rest)))
    have hmore := ih hspacedMore hvalues false room (by omega)
    rw [← readTexts_blank hspaced.2] at hmore
    rw [row, List.append_assoc, List.append_assoc, readTexts,
      nextElement_placed hspaced hvalue first]
    change (readText _ >>= fun s => readTexts (room + 1) false s.2 >>= fun others =>
      .ok (s.1 :: others.1, others.2)).toOption = _
    rw [toOption_bind, hread, List.map_cons, List.mapM_cons]
    cases p.value.text? with
    | none => rfl
    | some s =>
      simp only [Option.map_some, Option.bind_some, toOption_bind, hmore]
      cases (items.map (·.value)).mapM Value.text? <;> rfl

/-- What is read of a compound value, where reading what is inside ends at its closing mark. -/
theorem toOption_closing {α : Type} {close : List Char → List Char × Option Stop}
    {result : Except Stop (α × List Char)} {x : Option α} {last : List Char}
    (h : result.toOption = x.map fun a => (a, last)) (hclose : close last = (rest, none)) :
    (closing close result).toOption = x.map fun a => (a, rest) := by
  cases x with
  | none =>
    cases result with
    | error stop =>
      rw [closing]
      split <;> rfl
    | ok _ => cases h
  | some a =>
    rw [toOption_eq_some_iff.mp h, closing, hclose]
    rfl

/-- A list of strings is read as their texts, and anything else as nothing. -/
theorem Spells.toOption_readTextList (h : Spells v text) (hblank : IsBlank blank)
    (rest : List Char) :
    (readTextList (blank ++ (text ++ rest))).toOption
      = v.texts?.map fun texts => (texts, rest) := by
  obtain ⟨c, more, htext, hopen, hstart⟩ := h.exists_start hblank rest
  rw [readTextList, hstart]
  by_cases hbracket : c = '['
  · subst hbracket
    obtain ⟨items, rfl⟩ := hopen.exists_list
    cases h with
    | list hblank' hspaced hitems =>
      cases htext
      rw [Value.texts?]
      refine toOption_closing ?_ (rfl : closeList (']' :: rest) = (rest, none))
      rw [List.append_assoc, List.append_assoc, List.singleton_append]
      refine toOption_readTexts hspaced hitems hblank' true ?_ rest
      simp only [List.length_append, List.length_cons]
      omega
  · have hnone : v.texts? = none := by
      cases v with
      | list => exact absurd hopen hbracket
      | _ => rfl
    rw [hnone]
    split
    · rename_i heq
      cases heq
    · rename_i heq
      cases heq
      exact absurd rfl hbracket
    · exact toOption_wrongType _ _

/-- What a value says where null is wanted. -/
def Value.unit? : Value → Option Unit
  | .null => some ()
  | _ => none

/-- Null is read, and anything else is not. -/
theorem Spells.toOption_readUnit (h : Spells v text) (hblank : IsBlank blank) (rest : List Char) :
    (readUnit (blank ++ (text ++ rest))).toOption = v.unit?.map fun _ => rest := by
  obtain ⟨c, more, htext, hopen, hstart⟩ := h.exists_start hblank rest
  rw [readUnit, hstart]
  by_cases hnull : c = 'n'
  · subst hnull
    obtain rfl := hopen.eq_null
    cases h
    cases htext
    rfl
  · have hnone : v.unit? = none := by
      cases v with
      | null => exact absurd hopen hnull
      | _ => rfl
    rw [hnone]
    split
    · rename_i heq
      cases heq
    · rename_i heq
      cases heq
      exact absurd rfl hnull
    · exact toOption_wrongType _ _

end Texts

section Members

/-! ### Members of objects -/

/-- The key of a member is read as its text. -/
theorem toOption_nextKey {e : Entry} (hspaced : e.IsSpaced) (first : Bool) (tail : List Char) :
    (nextKey first ((if first then [] else [',']) ++ (e.written ++ tail))).toOption
      = ((textOf? e.key).map String.ofList).map fun name =>
        (some name, e.after ++ ':' :: (e.item.written ++ tail)) := by
  have hstart := hspaced.skipSpace_written tail
  have hread := toOption_readString hspaced.2.1 (e.after ++ ':' :: (e.item.written ++ tail))
  cases first with
  | true =>
    simp only [if_true, List.nil_append]
    rw [nextKey, hstart]
    simp [toOption_map, hread, Function.comp_def]
  | false =>
    have hcomma : skipSpace (',' :: (e.written ++ tail)) = ',' :: (e.written ++ tail) :=
      skipSpace_cons (by decide) _
    simp only [Bool.false_eq_true, if_false, List.cons_append, List.nil_append]
    rw [nextKey, hcomma]
    simp [hstart, toOption_map, hread, Function.comp_def]

theorem nextKey_end (h : IsBlank blank) (first : Bool) (rest : List Char) :
    nextKey first (blank ++ '\x7d' :: rest) = .ok (none, '\x7d' :: rest) := by
  rw [nextKey, skipSpace_blank h, skipSpace_cons (by decide)]
  rfl

theorem nextKey_blank (h : IsBlank blank) (first : Bool) (text : List Char) :
    nextKey first (blank ++ text) = nextKey first text := by
  rw [nextKey, nextKey, skipSpace_blank h]

/-- What stands behind the value of a member is left when the value is passed over. -/
theorem Spells.skipValue_written {p : Placed} (h : Spells p.value p.text) (hspaced : p.IsSpaced)
    (hrest : Follows rest) : skipValue (p.written ++ rest) = .ok (p.after ++ rest) := by
  rw [skipValue, Placed.written, List.append_assoc, List.append_assoc,
    skipValueBody_blank hspaced.1]
  refine h.passes _ _ ?_ (follows_blank hspaced.2 hrest)
  simp only [List.length_append]
  omega

end Members

end PeerTrust.Json
