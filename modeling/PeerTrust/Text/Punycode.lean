/-!
# Labels in ASCII letters, digits and hyphens

A label of any characters is spelled by its ASCII characters, a hyphen, and digits in base 36. The
digits form numbers of variable length, each of which says which character comes in next and where.
-/

namespace PeerTrust.Punycode

/-- The value of a digit; letters come first, in either case. -/
def digit? (c : Char) : Option Nat :=
  if 'a' ≤ c ∧ c ≤ 'z' then some (c.toNat - 'a'.toNat)
  else if 'A' ≤ c ∧ c ≤ 'Z' then some (c.toNat - 'A'.toNat)
  else if '0' ≤ c ∧ c ≤ '9' then some (c.toNat - '0'.toNat + 26)
  else none

/-- The digit with a value. -/
def digit (n : Nat) : Char :=
  Char.ofNat (if n < 26 then n + 'a'.toNat else n - 26 + '0'.toNat)

/-- The threshold of the digit at a place, given the bias: at least one, at most 26. -/
def threshold (bias place : Nat) : Nat :=
  min (max (36 * (place + 1) - bias) 1) 26

theorem threshold_pos (bias place : Nat) : 1 ≤ threshold bias place := by
  unfold threshold
  omega

/-- How often a number is divided until it is small, and what is left. -/
def reduce (count delta : Nat) : Nat × Nat :=
  if 455 < delta then reduce (count + 1) (delta / 35) else (count, delta)
  termination_by delta

/-- The bias after a number, given how many characters there are then. -/
def adapt (delta count : Nat) (first : Bool) : Nat :=
  let delta := if first then delta / 700 else delta / 2
  let (steps, left) := reduce 0 (delta + delta / count)
  36 * steps + 36 * left / (left + 38)

/-- The bias of the first number. -/
def firstBias : Nat := 72

/-- A number of variable length: its value and what follows it. -/
def readNumber (bias : Nat) : (place weight value : Nat) → List Char → Option (Nat × List Char)
  | _, _, _, [] => none
  | place, weight, value, c :: rest =>
    match digit? c with
    | none => none
    | some d =>
      let t := threshold bias place
      if d < t then some (value + d * weight, rest)
      else readNumber bias (place + 1) (weight * (36 - t)) (value + d * weight) rest

theorem readNumber_length {bias place weight value n : Nat} {text rest : List Char}
    (h : readNumber bias place weight value text = some (n, rest)) :
    rest.length < text.length := by
  induction text generalizing place weight value with
  | nil => simp [readNumber] at h
  | cons c text ih =>
    simp only [readNumber] at h
    split at h
    · simp at h
    · split at h
      · simp only [Option.some.injEq, Prod.mk.injEq] at h
        simp [← h.2]
      · exact Nat.lt_trans (ih h) (by simp)

/-- Puts characters in by the numbers that say which and where: `code` is the character that came
last and `index` the place after it. -/
def insertAll (bias code index : Nat) (codes : List Nat) (text : List Char) : Option (List Nat) :=
  if text.isEmpty then some codes
  else
    match _h : readNumber bias 0 1 0 text with
    | none => none
    | some (delta, rest) =>
      let count := codes.length + 1
      let code := code + (index + delta) / count
      let place := (index + delta) % count
      if 0x110000 ≤ code ∨ (0xD800 ≤ code ∧ code < 0xE000) then none
      else
        insertAll (adapt delta count (index == 0)) code (place + 1)
          (codes.take place ++ code :: codes.drop place) rest
  termination_by text.length
  decreasing_by exact readNumber_length _h

/-- The ASCII characters in front of the last hyphen, and the digits after it. A hyphen in front
separates nothing. -/
def splitLabel (text : List Char) : List Char × List Char :=
  let digits := (text.reverse.takeWhile (· ≠ '-')).reverse
  let plain := text.take (text.length - digits.length - 1)
  if plain.isEmpty then ([], text) else (plain, digits)

/-- The label that ASCII characters spell. -/
def decode (text : List Char) : Option (List Char) :=
  let (plain, digits) := splitLabel text
  if plain.all (·.toNat < 0x80) then
    (insertAll firstBias 0x80 0 (plain.map Char.toNat) digits).map fun codes => codes.map Char.ofNat
  else none

/-- The digits of a number of variable length. -/
def writeNumber (bias place n : Nat) : List Char :=
  let t := threshold bias place
  if n < t then [digit n]
  else digit (t + (n - t) % (36 - t)) :: writeNumber bias (place + 1) ((n - t) / (36 - t))
  termination_by n
  decreasing_by
    have := threshold_pos bias place
    exact Nat.lt_of_le_of_lt (Nat.div_le_self _ _) (by omega)

/-- Where writing a label stands. -/
structure Writing where
  /-- How far the next number has counted. -/
  delta : Nat
  bias : Nat
  /-- How many characters are written. -/
  count : Nat
  output : List Char

/-- One character of the label while all occurrences of `code` are written. -/
def writeChar (plain code : Nat) (w : Writing) (c : Nat) : Writing :=
  if c < code then { w with delta := w.delta + 1 }
  else if c = code then
    ⟨0, adapt w.delta (w.count + 1) (w.count == plain), w.count + 1,
      w.output ++ writeNumber w.bias 0 w.delta⟩
  else w

/-- Writes all occurrences of the codes beyond ASCII, from the least code up; `code` is the least
that has not been counted. -/
def writeCodes (plain : Nat) (label : List Nat) : (codes : List Nat) → (code : Nat) → Writing → Writing
  | [], _, w => w
  | c :: codes, code, w =>
    let w := { w with delta := w.delta + (c - code) * (w.count + 1) }
    let w := label.foldl (writeChar plain c) w
    writeCodes plain label codes (c + 1) { w with delta := w.delta + 1 }

/-- A code put into its place in an increasing list, unless it is there. -/
def place (c : Nat) : List Nat → List Nat
  | [] => [c]
  | d :: rest => if c = d then d :: rest else if c < d then c :: d :: rest else d :: place c rest

/-- The ASCII characters that spell a label. -/
def encode (label : List Char) : List Char :=
  let plain := label.filter (·.toNat < 0x80)
  let codes := label.map Char.toNat
  let beyond := (codes.filter (0x80 ≤ ·)).foldr place []
  let start := if plain.isEmpty then [] else plain ++ ['-']
  (writeCodes plain.length codes beyond 0x80 ⟨0, firstBias, plain.length, start⟩).output

end PeerTrust.Punycode
