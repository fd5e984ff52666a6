import PeerTrust.Json.Reader
import PeerTrust.Proofs.Row

/-!
# The grammar of JSON

A value is what a text says apart from its layout: blanks between tokens do not belong to it, nor
does the letter or the number by which a character is escaped, as long as it is the same character.
A text spells a value by the grammar of the standard, which is stated here without regard to any
reader. Numbers are kept as they are written.

Sixteen bits may be escaped by their number though they are only half a character. Such strings have
a place in the grammar, but they stand for no text.
-/

namespace PeerTrust.Json

section Values

/-! ### Values -/

/-- What stands at one place of a string: a character, or sixteen bits that are given by number. -/
inductive Piece where
  | char (c : Char)
  | unit (n : Nat)
  deriving DecidableEq, Repr

/-- A value of any type. -/
inductive Value where
  | null
  | boolean (b : Bool)
  | number (text : List Char)
  | string (pieces : List Piece)
  | list (items : List Value)
  | object (members : List (List Piece × Value))

/-- Whether sixteen bits are the first half of a character. -/
def IsFirstHalf (n : Nat) : Prop :=
  0xD800 ≤ n ∧ n ≤ 0xDBFF

/-- Whether sixteen bits are the second half of a character. -/
def IsSecondHalf (n : Nat) : Prop :=
  0xDC00 ≤ n ∧ n ≤ 0xDFFF

instance : DecidablePred IsFirstHalf :=
  fun n => inferInstanceAs (Decidable (0xD800 ≤ n ∧ n ≤ 0xDBFF))

instance : DecidablePred IsSecondHalf :=
  fun n => inferInstanceAs (Decidable (0xDC00 ≤ n ∧ n ≤ 0xDFFF))

/-- The text that a string stands for, if no half of a character is left over. -/
def textOf? : List Piece → Option (List Char)
  | [] => some []
  | .char c :: pieces => (textOf? pieces).map (c :: ·)
  | .unit n :: pieces =>
    if IsSecondHalf n then none
    else if IsFirstHalf n then
      match pieces with
      | .unit m :: pieces =>
        if IsSecondHalf m then
          (textOf? pieces).map (Char.ofNat ((n - 0xD800) * 0x400 + (m - 0xDC00) + 0x10000) :: ·)
        else none
      | _ => none
    else (textOf? pieces).map (Char.ofNat n :: ·)

/-- The text of a string value. -/
def Value.text? : Value → Option String
  | .string pieces => (textOf? pieces).map String.ofList
  | _ => none

end Values

section Tokens

/-! ### Tokens -/

/-- The characters that may stand between tokens. -/
def blanks : List Char :=
  [' ', '\t', '\n', '\r']

/-- A text that says nothing. -/
def IsBlank (text : List Char) : Prop :=
  ∀ c ∈ text, c ∈ blanks

/-- The letters that escape a character, with the character. -/
def shortEscapes : List (Char × Char) :=
  [('"', '"'), ('\\', '\\'), ('/', '/'), ('b', '\x08'), ('f', '\x0c'), ('n', '\n'), ('r', '\r'),
    ('t', '\t')]

/-- A text spells a piece of a string. -/
inductive SpellsPiece : Piece → List Char → Prop
  | plain {c : Char} (quote : c ≠ '"') (slash : c ≠ '\\') (visible : 0x20 ≤ c.toNat) :
    SpellsPiece (.char c) [c]
  | short {letter c : Char} (h : (letter, c) ∈ shortEscapes) : SpellsPiece (.char c) ['\\', letter]
  | hex {a b c d : Char} {na nb nc nd : Nat} (ha : Hex.value? a = some na)
    (hb : Hex.value? b = some nb) (hc : Hex.value? c = some nc) (hd : Hex.value? d = some nd) :
    SpellsPiece (.unit (((na * 16 + nb) * 16 + nc) * 16 + nd)) ['\\', 'u', a, b, c, d]

/-- A text spells the pieces of a string, without the quotes around them. -/
inductive SpellsPieces : List Piece → List Char → Prop
  | nil : SpellsPieces [] []
  | cons {p : Piece} {pieces : List Piece} {text more : List Char} (first : SpellsPiece p text)
    (others : SpellsPieces pieces more) : SpellsPieces (p :: pieces) (text ++ more)

/-- Whether a text has no quotes, backslashes or control characters. -/
def isPlain (text : List Char) : Bool :=
  text.all fun c => c != '"' && c != '\\' && 0x20 ≤ c.toNat

/-- A plain text spells itself. -/
theorem spellsPieces_plain {text : List Char} (h : isPlain text = true) :
    SpellsPieces (text.map .char) text := by
  induction text with
  | nil => exact .nil
  | cons c text ih =>
    simp only [isPlain, List.all_cons, Bool.and_eq_true, bne_iff_ne, decide_eq_true_eq] at h
    obtain ⟨⟨⟨quote, slash⟩, visible⟩, htext⟩ := h
    exact .cons (.plain quote slash visible) (ih htext)

/-- A text is made of decimal digits. -/
def IsDigits (text : List Char) : Prop :=
  text ≠ [] ∧ ∀ c ∈ text, '0' ≤ c ∧ c ≤ '9'

/-- The whole part of a number has no zero in front. -/
def IsWhole (text : List Char) : Prop :=
  text = ['0'] ∨ IsDigits text ∧ text.head? ≠ some '0'

/-- The digits behind the point of a number, which may be left out with it. -/
inductive IsFraction : List Char → Prop
  | none : IsFraction []
  | some {digits : List Char} (h : IsDigits digits) : IsFraction ('.' :: digits)

/-- The exponent of a number, which may be left out. -/
inductive IsExponent : List Char → Prop
  | none : IsExponent []
  | some {mark : Char} {sign digits : List Char} (hmark : mark = 'e' ∨ mark = 'E')
    (hsign : sign = [] ∨ sign = ['+'] ∨ sign = ['-']) (h : IsDigits digits) :
    IsExponent (mark :: (sign ++ digits))

/-- A number in decimal notation. -/
inductive IsNumber : List Char → Prop
  | mk {sign whole fraction exponent : List Char} (hsign : sign = [] ∨ sign = ['-'])
    (hwhole : IsWhole whole) (hfraction : IsFraction fraction) (hexponent : IsExponent exponent) :
    IsNumber (sign ++ (whole ++ (fraction ++ exponent)))

end Tokens

section Texts

/-! ### Texts of values -/

/-- A value with a text for it and what stands around that. -/
structure Placed where
  before : List Char
  value : Value
  text : List Char
  after : List Char

/-- What stands at the place of a value. -/
def Placed.written (p : Placed) : List Char :=
  p.before ++ (p.text ++ p.after)

/-- Nothing but blanks stands around a value. -/
def Placed.IsSpaced (p : Placed) : Prop :=
  IsBlank p.before ∧ IsBlank p.after

/-- A member of an object, with a text for its key and what stands around it. -/
structure Entry where
  before : List Char
  key : List Piece
  /-- Without quotes. -/
  keyText : List Char
  after : List Char
  item : Placed

/-- What a member says. -/
def Entry.member (e : Entry) : List Piece × Value :=
  (e.key, e.item.value)

/-- What stands at the place of a member. -/
def Entry.written (e : Entry) : List Char :=
  e.before ++ '"' :: (e.keyText ++ '"' :: (e.after ++ ':' :: e.item.written))

/-- The key is spelled, and nothing but blanks stands around it and around the value. -/
def Entry.IsSpaced (e : Entry) : Prop :=
  IsBlank e.before ∧ SpellsPieces e.key e.keyText ∧ IsBlank e.after ∧ e.item.IsSpaced

/-- A text spells a value. -/
inductive Spells : Value → List Char → Prop
  | null : Spells .null ['n', 'u', 'l', 'l']
  | yes : Spells (.boolean true) ['t', 'r', 'u', 'e']
  | no : Spells (.boolean false) ['f', 'a', 'l', 's', 'e']
  | number {text : List Char} (h : IsNumber text) : Spells (.number text) text
  | string {pieces : List Piece} {text : List Char} (h : SpellsPieces pieces text) :
    Spells (.string pieces) ('"' :: (text ++ ['"']))
  | list {items : List Placed} {blank : List Char} (hblank : IsBlank blank)
    (hspaced : ∀ p ∈ items, p.IsSpaced) (hitems : ∀ p ∈ items, Spells p.value p.text) :
    Spells (.list (items.map (·.value)))
      ('[' :: (row ',' Placed.written true items ++ (blank ++ [']'])))
  | object {entries : List Entry} {blank : List Char} (hblank : IsBlank blank)
    (hspaced : ∀ e ∈ entries, e.IsSpaced)
    (hitems : ∀ e ∈ entries, Spells e.item.value e.item.text) :
    Spells (.object (entries.map (·.member)))
      ('\x7b' :: (row ',' Entry.written true entries ++ (blank ++ ['\x7d'])))

/-- A whole text spells an object with members. -/
def SpellsObject (members : List (List Piece × Value)) (s : String) : Prop :=
  ∃ p : Placed, p.value = .object members ∧ p.IsSpaced ∧ Spells p.value p.text ∧
    s.toList = p.written

end Texts

end PeerTrust.Json
