import PeerTrust.Proofs.Json.Grammar
import PeerTrust.Proofs.Json.Passing

/-!
# Every value is passed over

Whatever value a text spells by the grammar, and whatever strings, numbers and members it holds, a
reader to which the value means nothing passes over exactly its text. So a value that is not wanted
never makes a difference, and never an error.

What is wanted of a value is not considered here.
-/

namespace PeerTrust.Json

variable {text rest blank : List Char}

section Blanks

/-! ### Blanks -/

theorem isSpace_of_mem_blanks {c : Char} (h : c ∈ blanks) : isSpace c = true := by
  simp only [blanks, List.mem_cons, List.not_mem_nil, or_false] at h
  rcases h with rfl | rfl | rfl | rfl <;> rfl

/-- Blanks in front do not matter. -/
theorem skipSpace_blank (h : IsBlank blank) (text : List Char) :
    skipSpace (blank ++ text) = skipSpace text :=
  List.dropWhile_append_of_pos fun c hc => isSpace_of_mem_blanks (h c hc)

theorem skipSpace_cons {c : Char} (h : isSpace c = false) (text : List Char) :
    skipSpace (c :: text) = c :: text := by
  simp [skipSpace, h]

theorem skipSpace_of_isBlank (h : IsBlank blank) : skipSpace blank = [] := by
  have hspace := skipSpace_blank h []
  rwa [List.append_nil] at hspace

/-- Blanks in front of a value are passed over with it. -/
theorem skipValueBody_blank (h : IsBlank blank) {fuel : Nat} (text : List Char) :
    skipValueBody (fuel + 1) (blank ++ text) = skipValueBody (fuel + 1) text := by
  rw [← skipValueBody_skipSpace, skipSpace_blank h, skipValueBody_skipSpace]

end Blanks

section Numbers

/-! ### Numbers -/

/-- What may stand behind a value: nothing, a blank, or what goes on with or ends a compound. -/
def Follows (rest : List Char) : Prop :=
  ∀ c ∈ rest.head?, c ∈ ',' :: ']' :: '\x7d' :: blanks

/-- What stands behind a value is no part of a number. -/
theorem Follows.not_number (h : Follows rest) :
    ∀ c ∈ rest.head?, isDigit c = false ∧ c ≠ '.' ∧ c ≠ 'e' ∧ c ≠ 'E' := by
  have hall : (',' :: ']' :: '\x7d' :: blanks).all
      (fun c => !isDigit c && c != '.' && c != 'e' && c != 'E') = true := by decide
  intro c hc
  have hone := List.all_eq_true.mp hall c (h c hc)
  simpa [and_assoc] using hone

theorem follows_cons {c : Char} (h : c ∈ ',' :: ']' :: '\x7d' :: blanks) (rest : List Char) :
    Follows (c :: rest) := by
  intro d hd
  cases hd
  exact h

theorem follows_blank (h : IsBlank blank) (hrest : Follows rest) : Follows (blank ++ rest) := by
  cases blank with
  | nil => exact hrest
  | cons c blank => exact follows_cons (by simp [h c List.mem_cons_self]) _

theorem isDigit_iff {c : Char} : isDigit c = true ↔ '0' ≤ c ∧ c ≤ '9' := by
  simp [isDigit]

theorem ne_of_isDigit {c d : Char} (hc : isDigit c = true) (hd : isDigit d = false) : c ≠ d := by
  rintro rfl
  simp [hc] at hd

theorem isSpace_of_isDigit {c : Char} (h : isDigit c = true) : isSpace c = false := by
  have hne {d : Char} (hd : isDigit d = false) : c ≠ d := ne_of_isDigit h hd
  simp [isSpace, hne (show isDigit ' ' = false by decide), hne (show isDigit '\n' = false by decide),
    hne (show isDigit '\t' = false by decide), hne (show isDigit '\r' = false by decide)]

/-- Digits are taken up to where none follows. -/
theorem spanDigits_append {digits : List Char} (hdigits : ∀ c ∈ digits, '0' ≤ c ∧ c ≤ '9')
    (hrest : ∀ c ∈ rest.head?, isDigit c = false) :
    spanDigits (digits ++ rest) = (digits, rest) := by
  have hall : ∀ c ∈ digits, isDigit c = true := fun c hc => isDigit_iff.mpr (hdigits c hc)
  have hnone : rest.takeWhile isDigit = [] ∧ rest.dropWhile isDigit = rest := by
    cases rest with
    | nil => exact ⟨rfl, rfl⟩
    | cons c rest =>
      have hc : isDigit c = false := hrest c rfl
      simp [hc]
  rw [spanDigits, List.takeWhile_append_of_pos hall, List.dropWhile_append_of_pos hall, hnone.1,
    hnone.2, List.append_nil]

theorem IsWhole.exists_digit {whole : List Char} (h : IsWhole whole) :
    ∃ c more, whole = c :: more ∧ isDigit c = true := by
  rcases h with rfl | ⟨⟨hne, hdigits⟩, -⟩
  · exact ⟨'0', [], rfl, by decide⟩
  · obtain ⟨c, more, rfl⟩ := List.exists_cons_of_ne_nil hne
    exact ⟨c, more, rfl, isDigit_iff.mpr (hdigits c List.mem_cons_self)⟩

theorem readWhole_append (atEnd : Cause) {whole : List Char} (h : IsWhole whole)
    (hrest : ∀ c ∈ rest.head?, isDigit c = false) :
    readWhole atEnd (whole ++ rest) = .ok (whole, rest) := by
  rcases h with rfl | ⟨⟨hne, hdigits⟩, hzero⟩
  · cases rest with
    | nil => rfl
    | cons c rest =>
      have hc : isDigit c = false := hrest c rfl
      simp [readWhole, hc]
  · obtain ⟨c, whole, rfl⟩ := List.exists_cons_of_ne_nil hne
    have hc : c ≠ '0' := fun heq => hzero (congrArg some heq)
    have hdigit : isDigit c = true := isDigit_iff.mpr (hdigits c List.mem_cons_self)
    have hspan := spanDigits_append hdigits hrest
    rw [List.cons_append] at hspan ⊢
    simp [readWhole, hdigit, hspan]

theorem readFraction_append (atEnd : Cause) {digits : List Char} (h : IsDigits digits)
    (hrest : ∀ c ∈ rest.head?, isDigit c = false) :
    readFraction atEnd (digits ++ rest) = .ok (digits, rest) := by
  obtain ⟨hne, hdigits⟩ := h
  obtain ⟨c, digits, rfl⟩ := List.exists_cons_of_ne_nil hne
  rw [readFraction, spanDigits_append hdigits hrest]

theorem readExponent_append (atEnd : Cause) {sign digits : List Char}
    (hsign : sign = [] ∨ sign = ['+'] ∨ sign = ['-']) (h : IsDigits digits)
    (hrest : ∀ c ∈ rest.head?, isDigit c = false) :
    ∃ negative, readExponent atEnd (sign ++ (digits ++ rest)) = .ok ((negative, digits), rest) := by
  obtain ⟨hne, hdigits⟩ := h
  have hspan := spanDigits_append hdigits hrest
  obtain ⟨c, digits, rfl⟩ := List.exists_cons_of_ne_nil hne
  have hc := hdigits c List.mem_cons_self
  have hdigit : isDigit c = true := isDigit_iff.mpr hc
  have hplus : c ≠ '+' := by
    rintro rfl
    exact absurd hc (by decide)
  have hminus : c ≠ '-' := by
    rintro rfl
    exact absurd hc (by decide)
  rw [List.cons_append] at hspan ⊢
  rcases hsign with rfl | rfl | rfl <;> simp [readExponent, hplus, hminus, hdigit, hspan]

/-- What is behind the whole part of a number is no digit. -/
theorem IsExponent.not_digit {exponent : List Char} (h : IsExponent exponent)
    (hrest : Follows rest) :
    ∀ c ∈ (exponent ++ rest).head?, isDigit c = false ∧ c ≠ '.' := by
  cases h with
  | none =>
    intro c hc
    exact ⟨(hrest.not_number c hc).1, (hrest.not_number c hc).2.1⟩
  | some hmark _ _ =>
    rintro c ⟨⟩
    rcases hmark with rfl | rfl <;> decide

theorem IsFraction.not_digit {fraction exponent : List Char} (h : IsFraction fraction)
    (hexponent : IsExponent exponent) (hrest : Follows rest) :
    ∀ c ∈ (fraction ++ (exponent ++ rest)).head?, isDigit c = false := by
  cases h with
  | none =>
    intro c hc
    exact (hexponent.not_digit hrest c hc).1
  | some _ =>
    rintro c ⟨⟩
    decide

/-- A number without its sign is read up to what stands behind it. -/
theorem exists_readNumeral (atEnd : Cause) {whole fraction exponent : List Char}
    (hwhole : IsWhole whole) (hfraction : IsFraction fraction) (hexponent : IsExponent exponent)
    (hrest : Follows rest) :
    ∃ n, readNumeral atEnd (whole ++ (fraction ++ (exponent ++ rest))) = .ok (n, rest) := by
  have hread := readWhole_append atEnd hwhole (hfraction.not_digit hexponent hrest)
  have hnumber := hrest.not_number
  rw [readNumeral, hread]
  cases hexponent with
  | none =>
    rw [List.nil_append]
    cases hfraction with
    | none =>
      cases rest with
      | nil => exact ⟨_, rfl⟩
      | cons c rest =>
        obtain ⟨-, hpoint, hsmall, hlarge⟩ := hnumber c rfl
        simp [bind, Except.bind, pure, Except.pure, hpoint, hsmall, hlarge]
    | some hdigits =>
      have hread := readFraction_append atEnd hdigits fun c hc => (hnumber c hc).1
      rw [List.cons_append]
      cases rest with
      | nil => simp [-List.append_nil, bind, Except.bind, pure, Except.pure, hread]
      | cons c rest =>
        obtain ⟨-, -, hsmall, hlarge⟩ := hnumber c rfl
        simp [bind, Except.bind, pure, Except.pure, hread, hsmall, hlarge]
  | @some mark sign digits hmark hsign hdigits =>
    obtain ⟨negative, hexp⟩ := readExponent_append atEnd hsign hdigits
      fun c hc => (hnumber c hc).1
    rw [List.cons_append, List.append_assoc]
    cases hfraction with
    | none => rcases hmark with rfl | rfl <;> simp [bind, Except.bind, pure, Except.pure, hexp]
    | some hdigits' =>
      have hmarkDigit : ∀ c ∈ (mark :: (sign ++ (digits ++ rest))).head?, isDigit c = false := by
        rintro c ⟨⟩
        rcases hmark with rfl | rfl <;> decide
      have hread := readFraction_append atEnd hdigits' hmarkDigit
      rw [List.cons_append]
      rcases hmark with rfl | rfl <;> simp [bind, Except.bind, pure, Except.pure, hread, hexp]

end Numbers

section Strings

/-! ### Strings -/

theorem shortEscape?_of_mem {letter c : Char} (h : (letter, c) ∈ shortEscapes) :
    shortEscape? letter = some c ∧ letter ≠ 'u' := by
  simp only [shortEscapes, List.mem_cons, Prod.mk.injEq, List.not_mem_nil, or_false] at h
  rcases h with ⟨rfl, rfl⟩ | ⟨rfl, rfl⟩ | ⟨rfl, rfl⟩ | ⟨rfl, rfl⟩ | ⟨rfl, rfl⟩ | ⟨rfl, rfl⟩ |
    ⟨rfl, rfl⟩ | ⟨rfl, rfl⟩ <;> decide

theorem readHex4_cons {a b c d : Char} {na nb nc nd : Nat} (ha : Hex.value? a = some na)
    (hb : Hex.value? b = some nb) (hc : Hex.value? c = some nc) (hd : Hex.value? d = some nd)
    (rest : List Char) :
    readHex4 (a :: b :: c :: d :: rest) = .ok (((na * 16 + nb) * 16 + nc) * 16 + nd, rest) := by
  simp [readHex4, ha, hb, hc, hd]

/-- A piece of a string is passed over in one step. -/
theorem skipStringBody_piece {p : Piece} (h : SpellsPiece p text) (fuel : Nat) (rest : List Char) :
    skipStringBody (fuel + 1) (text ++ rest) = skipStringBody fuel rest := by
  cases h with
  | plain quote slash visible => simp [skipStringBody, quote, slash, Nat.not_lt.mpr visible]
  | short h =>
    obtain ⟨hletter, hu⟩ := shortEscape?_of_mem h
    simp [skipStringBody, skipEscape, hletter, bind, Except.bind]
  | hex ha hb hc hd =>
    simp [skipStringBody, skipEscape, readHex4_cons ha hb hc hd, Except.map, bind, Except.bind]

theorem skipStringBody_pieces {pieces : List Piece} (h : SpellsPieces pieces text) {fuel : Nat}
    (hfuel : text.length < fuel) (rest : List Char) :
    skipStringBody fuel (text ++ '"' :: rest) = .ok rest := by
  induction h generalizing fuel with
  | nil =>
    obtain ⟨room, rfl⟩ : ∃ room, fuel = room + 1 := ⟨fuel - 1, by omega⟩
    rfl
  | @cons p pieces text more first _ ih =>
    have hpos : 0 < text.length := by cases first <;> simp
    rw [List.length_append] at hfuel
    obtain ⟨room, rfl⟩ : ∃ room, fuel = room + 1 := ⟨fuel - 1, by omega⟩
    rw [List.append_assoc, skipStringBody_piece first, ih (by omega)]

/-- A string is passed over up to its closing quote. -/
theorem skipString_pieces {pieces : List Piece} (h : SpellsPieces pieces text) (rest : List Char) :
    skipString (text ++ '"' :: rest) = .ok rest :=
  skipStringBody_pieces h (by rw [List.length_append]; omega) rest

end Strings

section Openings

/-! ### How values begin -/

/-- The characters with which values of a type begin. -/
def Value.IsOpenedBy : Value → Char → Prop
  | .null, c => c = 'n'
  | .boolean true, c => c = 't'
  | .boolean false, c => c = 'f'
  | .number _, c => c = '-' ∨ isDigit c = true
  | .string _, c => c = '"'
  | .list _, c => c = '['
  | .object _, c => c = '\x7b'

theorem Spells.exists_opening {v : Value} (h : Spells v text) :
    ∃ c more, text = c :: more ∧ v.IsOpenedBy c := by
  cases h with
  | null | yes | no | string _ | list _ _ _ | object _ _ _ => exact ⟨_, _, rfl, rfl⟩
  | number h =>
    obtain @⟨sign, whole, fraction, exponent, hsign, hwhole, -, -⟩ := h
    rcases hsign with rfl | rfl
    · obtain ⟨c, more, rfl, hdigit⟩ := hwhole.exists_digit
      exact ⟨c, _, rfl, .inr hdigit⟩
    · exact ⟨'-', _, rfl, .inl rfl⟩

/-- No value begins with a blank or with what ends a list. -/
theorem Value.IsOpenedBy.not_end {v : Value} {c : Char} (h : v.IsOpenedBy c) :
    isSpace c = false ∧ c ≠ ']' := by
  cases v with
  | boolean b => cases b <;> (cases h; decide)
  | number _ =>
    rcases h with rfl | h
    · decide
    · exact ⟨isSpace_of_isDigit h, ne_of_isDigit h (by decide)⟩
  | null | string _ | list _ | object _ =>
    cases h
    decide

/-- Behind blanks, the text of a value begins at once. -/
theorem Spells.exists_start {v : Value} (h : Spells v text) (hblank : IsBlank blank)
    (rest : List Char) :
    ∃ c more, text = c :: more ∧ v.IsOpenedBy c ∧
      skipSpace (blank ++ (text ++ rest)) = c :: (more ++ rest) := by
  obtain ⟨c, more, rfl, hopen⟩ := h.exists_opening
  refine ⟨c, more, rfl, hopen, ?_⟩
  rw [skipSpace_blank hblank, List.cons_append, skipSpace_cons hopen.not_end.1]

theorem Spells.length_pos {v : Value} (h : Spells v text) : 0 < text.length := by
  obtain ⟨c, more, rfl, -⟩ := h.exists_opening
  exact Nat.succ_pos _

/-- Behind blanks, the text of a member begins with its key. -/
theorem Entry.IsSpaced.skipSpace_written {e : Entry} (h : e.IsSpaced) (tail : List Char) :
    skipSpace (e.written ++ tail)
      = '"' :: (e.keyText ++ '"' :: (e.after ++ ':' :: (e.item.written ++ tail))) := by
  rw [Entry.written, List.append_assoc, skipSpace_blank h.1, List.cons_append,
    skipSpace_cons (by decide)]
  simp only [List.append_assoc, List.cons_append]

end Openings

section Values

/-! ### Values -/

theorem nextElement_placed {p : Placed} (hspaced : p.IsSpaced) (hvalue : Spells p.value p.text)
    (first : Bool) (tail : List Char) :
    nextElement first ((if first then [] else [',']) ++ (p.written ++ tail))
      = .ok (true, p.text ++ (p.after ++ tail)) := by
  obtain ⟨c, more, htext, hopen, hstart⟩ := hvalue.exists_start hspaced.1 (p.after ++ tail)
  have hclose := hopen.not_end.2
  rw [← List.append_assoc p.text, ← List.append_assoc p.before, ← Placed.written] at hstart
  cases first with
  | true => simp [nextElement, hstart, htext]
  | false =>
    have hcomma : skipSpace (',' :: (p.written ++ tail)) = ',' :: (p.written ++ tail) :=
      skipSpace_cons (by decide) _
    simp [nextElement, hstart, htext, hclose, hcomma]

theorem nextElement_end (h : IsBlank blank) (first : Bool) (rest : List Char) :
    nextElement first (blank ++ ']' :: rest) = .ok (false, ']' :: rest) := by
  simp [nextElement, skipSpace_blank h, skipSpace_cons (show isSpace ']' = false by decide)]

/-- What stands behind an element is blank, or goes on with the list or ends it. -/
theorem follows_row {α : Type} (write : α → List Char) (l : List α) (hblank : IsBlank blank)
    (hrest : Follows rest) : Follows (row ',' write false l ++ (blank ++ rest)) := by
  cases l with
  | nil =>
    rw [row, List.nil_append]
    exact follows_blank hblank hrest
  | cons a l => exact follows_cons (by decide) _

theorem skipElements_blank (h : IsBlank blank) (fuel : Nat) (first : Bool) (text : List Char) :
    skipElements (fuel + 1) first (blank ++ text) = skipElements (fuel + 1) first text := by
  rw [skipElements, skipElements, skipSpace_blank h]

/-- A text is passed over as a value, whatever may stand behind it. -/
def Passes (text : List Char) : Prop :=
  ∀ fuel rest, 2 * text.length ≤ fuel → Follows rest → skipValueBody fuel (text ++ rest) = .ok rest

/-- A list is passed over when its elements are. -/
theorem skipElements_row {items : List Placed} (hspaced : ∀ p ∈ items, p.IsSpaced)
    (hvalues : ∀ p ∈ items, Spells p.value p.text) (hpass : ∀ p ∈ items, Passes p.text)
    (hblank : IsBlank blank) (first : Bool) {fuel : Nat} (rest : List Char)
    (hfuel : 2 * (row ',' Placed.written first items ++ (blank ++ [']'])).length ≤ fuel) :
    skipElements fuel first (row ',' Placed.written first items ++ (blank ++ ']' :: rest))
      = .ok rest := by
  induction items generalizing first fuel with
  | nil =>
    simp at hfuel
    obtain ⟨room, rfl⟩ : ∃ room, fuel = room + 1 := ⟨fuel - 1, by omega⟩
    obtain ⟨_, ⟨⟩, hend⟩ := skipElements_of_end room (nextElement_end hblank first rest)
    exact hend
  | cons p items ih =>
    obtain ⟨hspaced, hspacedMore⟩ := List.forall_mem_cons.mp hspaced
    obtain ⟨hvalue, hvalues⟩ := List.forall_mem_cons.mp hvalues
    obtain ⟨hpass, hpassMore⟩ := List.forall_mem_cons.mp hpass
    have hpos := hvalue.length_pos
    simp only [row, Placed.written, List.length_append, List.length_singleton] at hfuel
    obtain ⟨room, rfl⟩ : ∃ room, fuel = room + 2 := ⟨fuel - 2, by omega⟩
    have hfollows : Follows (p.after ++ (row ',' Placed.written false items ++
        (blank ++ ']' :: rest))) :=
      follows_blank hspaced.2 (follows_row _ _ hblank (follows_cons (by decide) _))
    have hnext := nextElement_placed hspaced hvalue first
      (row ',' Placed.written false items ++ (blank ++ ']' :: rest))
    rw [row, List.append_assoc, List.append_assoc, (skipElements_of_more room hnext).1,
      hpass _ _ (by omega) hfollows]
    change skipElements (room + 1) false _ = _
    rw [skipElements_blank hspaced.2]
    refine ih hspacedMore hvalues hpassMore false ?_
    simp only [List.length_append, List.length_singleton]
    omega

theorem readColon_blank (h : IsBlank blank) (rest : List Char) :
    readColon (blank ++ ':' :: rest) = .ok rest := by
  simp [readColon, skipSpace_blank h, skipSpace_cons (show isSpace ':' = false by decide)]

/-- The key of a member comes first, behind a comma unless the member is the first. -/
theorem skipMembers_entry {e : Entry} (hspaced : e.IsSpaced) (first : Bool) (fuel : Nat)
    {after tail : List Char}
    (hvalue : skipValueBody fuel (e.item.written ++ tail) = .ok after) :
    skipMembers (fuel + 2) first ((if first then [] else [',']) ++ (e.written ++ tail))
      = skipMembers fuel false after := by
  have hstart := hspaced.skipSpace_written tail
  obtain ⟨-, hkey, hafter, -⟩ := hspaced
  have hcolon : (skipString (e.keyText ++ '"' :: (e.after ++ ':' :: (e.item.written ++ tail)))).bind
      readColon = .ok (e.item.written ++ tail) := by
    rw [skipString_pieces hkey]
    exact readColon_blank hafter _
  cases first with
  | true =>
    simp only [if_true, List.nil_append]
    rw [skipMembers, hstart]
    exact skipMember_of_value (skipSpace_cons (by decide) _) hcolon hvalue
  | false =>
    have hcomma : skipSpace (',' :: (e.written ++ tail)) = ',' :: (e.written ++ tail) :=
      skipSpace_cons (by decide) _
    simp only [Bool.false_eq_true, if_false, List.cons_append, List.nil_append]
    rw [skipMembers, hcomma]
    exact skipMember_of_value hstart hcolon hvalue

theorem skipMembers_blank (h : IsBlank blank) (fuel : Nat) (first : Bool) (text : List Char) :
    skipMembers (fuel + 1) first (blank ++ text) = skipMembers (fuel + 1) first text := by
  rw [skipMembers, skipMembers, skipSpace_blank h]

/-- An object is passed over when the values of its members are. -/
theorem skipMembers_row {entries : List Entry} (hspaced : ∀ e ∈ entries, e.IsSpaced)
    (hpass : ∀ e ∈ entries, Passes e.item.text) (hblank : IsBlank blank) (first : Bool) {fuel : Nat}
    (rest : List Char)
    (hfuel : 2 * (row ',' Entry.written first entries ++ (blank ++ ['\x7d'])).length ≤ fuel) :
    skipMembers fuel first (row ',' Entry.written first entries ++ (blank ++ '\x7d' :: rest))
      = .ok rest := by
  induction entries generalizing first fuel with
  | nil =>
    simp at hfuel
    obtain ⟨room, rfl⟩ : ∃ room, fuel = room + 1 := ⟨fuel - 1, by omega⟩
    rw [row, List.nil_append, skipMembers_blank hblank, skipMembers,
      skipSpace_cons (by decide)]
    rfl
  | cons e entries ih =>
    obtain ⟨hspaced, hspacedMore⟩ := List.forall_mem_cons.mp hspaced
    obtain ⟨hpass, hpassMore⟩ := List.forall_mem_cons.mp hpass
    obtain ⟨hbefore, hafter⟩ := hspaced.2.2.2
    simp only [row, Entry.written, Placed.written, List.length_append, List.length_cons] at hfuel
    obtain ⟨room, rfl⟩ : ∃ room, fuel = room + 3 := ⟨fuel - 3, by omega⟩
    have hfollows : Follows (e.item.after ++ (row ',' Entry.written false entries ++
        (blank ++ '\x7d' :: rest))) :=
      follows_blank hafter (follows_row _ _ hblank (follows_cons (by decide) _))
    have hvalue : skipValueBody (room + 1) (e.item.written ++
        (row ',' Entry.written false entries ++ (blank ++ '\x7d' :: rest)))
          = .ok (e.item.after ++ (row ',' Entry.written false entries ++
            (blank ++ '\x7d' :: rest))) := by
      rw [Placed.written, List.append_assoc, List.append_assoc, skipValueBody_blank hbefore]
      exact hpass _ _ (by omega) hfollows
    rw [row, List.append_assoc, List.append_assoc, skipMembers_entry hspaced first (room + 1) hvalue,
      skipMembers_blank hafter]
    refine ih hspacedMore hpassMore false ?_
    simp only [List.length_append, List.length_singleton]
    omega

/-- A number is passed over up to what stands behind it. -/
theorem skipValueBody_number (h : IsNumber text) (fuel : Nat) (hrest : Follows rest) :
    skipValueBody (fuel + 1) (text ++ rest) = .ok rest := by
  obtain @⟨sign, whole, fraction, exponent, hsign, hwhole, hfraction, hexponent⟩ := h
  obtain ⟨n, hread⟩ := exists_readNumeral .invalidNumber hwhole hfraction hexponent hrest
  simp only [List.append_assoc]
  rcases hsign with rfl | rfl
  · obtain ⟨c, more, rfl, hdigit⟩ := hwhole.exists_digit
    have hne {d : Char} (hd : isDigit d = false) : c ≠ d := ne_of_isDigit hdigit hd
    rw [List.cons_append] at hread
    simp [skipValueBody, skipSpace_cons (isSpace_of_isDigit hdigit), hdigit, hread, Except.map,
      hne (show isDigit 'n' = false by decide), hne (show isDigit 't' = false by decide),
      hne (show isDigit 'f' = false by decide), hne (show isDigit '-' = false by decide),
      hne (show isDigit '"' = false by decide), hne (show isDigit '[' = false by decide),
      hne (show isDigit '\x7b' = false by decide)]
  · simp [skipValueBody, skipSpace_cons (show isSpace '-' = false by decide), hread, Except.map]

/-- Every value is passed over up to what stands behind it. -/
theorem Spells.passes {v : Value} (h : Spells v text) : Passes text := by
  induction h with
  | null | yes | no =>
    intro fuel rest hfuel _
    simp at hfuel
    obtain ⟨room, rfl⟩ : ∃ room, fuel = room + 1 := ⟨fuel - 1, by omega⟩
    rfl
  | @number text h =>
    intro fuel rest hfuel hrest
    have hpos := (Spells.number h).length_pos
    obtain ⟨room, rfl⟩ : ∃ room, fuel = room + 1 := ⟨fuel - 1, by omega⟩
    exact skipValueBody_number h room hrest
  | string h =>
    intro fuel rest hfuel _
    simp at hfuel
    obtain ⟨room, rfl⟩ : ∃ room, fuel = room + 1 := ⟨fuel - 1, by omega⟩
    rw [List.cons_append, skipValueBody, skipSpace_cons (by decide), List.append_assoc]
    exact skipString_pieces h rest
  | @list items blank hblank hspaced hitems ih =>
    intro fuel rest hfuel _
    rw [List.length_cons] at hfuel
    obtain ⟨room, rfl⟩ : ∃ room, fuel = room + 1 := ⟨fuel - 1, by omega⟩
    rw [List.cons_append, skipValueBody, skipSpace_cons (by decide), List.append_assoc,
      List.append_assoc]
    exact skipElements_row hspaced hitems ih hblank true rest (by omega)
  | @object entries blank hblank hspaced hitems ih =>
    intro fuel rest hfuel _
    rw [List.length_cons] at hfuel
    obtain ⟨room, rfl⟩ : ∃ room, fuel = room + 1 := ⟨fuel - 1, by omega⟩
    rw [List.cons_append, skipValueBody, skipSpace_cons (by decide), List.append_assoc,
      List.append_assoc]
    exact skipMembers_row hspaced ih hblank true rest (by omega)

end Values

end PeerTrust.Json
