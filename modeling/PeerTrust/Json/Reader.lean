import PeerTrust.Decimal.Shortest
import PeerTrust.Json.Fault
import PeerTrust.Text.Quoted

/-!
# Reading JSON values

A reader takes the text that is left and gives a value with what is left after it, or the cause and
the place at which it stops. Places are told by what is left of the text and by how many octets
beyond it were looked at, so nothing has to be counted while reading.

A text is read for the value that is wanted. A value of another type is named in the fault, and a
value that nobody wants is passed over by its syntax alone.
-/

namespace PeerTrust.Json

/-- Where and why a reader stops. -/
structure Stop where
  cause : Cause
  /-- What is left of the text. -/
  rest : List Char
  /-- How many octets beyond that were looked at. -/
  beyond : Nat
  /-- Whether the place is still open: a fault of a whole object is placed where the object ends. -/
  open_ : Bool
  deriving DecidableEq, Repr

/-- Stops before what is left. -/
def stopAt {α : Type} (cause : Cause) (rest : List Char) : Except Stop α :=
  .error ⟨cause, rest, 0, false⟩

/-- Stops after looking at one more octet. -/
def stopAfter {α : Type} (cause : Cause) (rest : List Char) : Except Stop α :=
  .error ⟨cause, rest, 1, false⟩

/-- Whether a character separates tokens. -/
def isSpace (c : Char) : Bool :=
  c = ' ' || c = '\n' || c = '\t' || c = '\r'

/-- The text after the blanks at its start. -/
def skipSpace (text : List Char) : List Char :=
  text.dropWhile isSpace

/-- Reads the letters of a word whose first letter is read already. -/
def readWord : (letters text : List Char) → Except Stop (List Char)
  | [], text => .ok text
  | _ :: _, [] => stopAt .endInValue []
  | l :: letters, c :: rest => if c = l then readWord letters rest else stopAfter .expectedIdent (c :: rest)

/-- The number that four hexadecimal digits spell, and what follows them. -/
def readHex4 (text : List Char) : Except Stop (Nat × List Char) :=
  match text with
  | a :: b :: c :: d :: rest =>
    match Hex.value? a, Hex.value? b, Hex.value? c, Hex.value? d with
    | some a, some b, some c, some d => .ok (((a * 16 + b) * 16 + c) * 16 + d, rest)
    | _, _, _, _ => .error ⟨.invalidEscape, text, 4, false⟩
  | _ => if Utf8.size text < 4 then stopAt .endInString [] else .error ⟨.invalidEscape, text, 4, false⟩

/-- The character that a letter after a backslash stands for. -/
def shortEscape? (c : Char) : Option Char :=
  if c = '"' ∨ c = '\\' ∨ c = '/' then some c
  else if c = 'b' then some '\x08'
  else if c = 'f' then some '\x0c'
  else if c = 'n' then some '\n'
  else if c = 'r' then some '\r'
  else if c = 't' then some '\t'
  else none

/-- The second half of a character that is spelled by two escapes. -/
def readSecondHalf (first : Nat) (text : List Char) : Except Stop (Char × List Char) :=
  match text with
  | [] => stopAt .endInString []
  | '\\' :: [] => stopAt .endInString []
  | '\\' :: 'u' :: rest => do
    let (n, rest) ← readHex4 rest
    if 0xDC00 ≤ n ∧ n ≤ 0xDFFF then
      .ok (Char.ofNat ((first - 0xD800) * 0x400 + (n - 0xDC00) + 0x10000), rest)
    else stopAt .loneSurrogate rest
  | '\\' :: rest => stopAfter .endOfHexEscape rest
  | rest => stopAfter .endOfHexEscape rest

/-- The character that an escape stands for, its backslash read already. -/
def readEscape (text : List Char) : Except Stop (Char × List Char) :=
  match text with
  | [] => stopAt .endInString []
  | 'u' :: rest => do
    let (n, rest) ← readHex4 rest
    if 0xDC00 ≤ n ∧ n ≤ 0xDFFF then stopAt .loneSurrogate rest
    else if 0xD800 ≤ n ∧ n ≤ 0xDBFF then readSecondHalf n rest
    else .ok (Char.ofNat n, rest)
  | c :: rest =>
    match shortEscape? c with
    | some d => .ok (d, rest)
    | none => stopAfter .invalidEscape (c :: rest)

/-- Reads a string whose opening quote is read already. Each step takes at least one character, so
`fuel` steps suffice when it is the length of the text. -/
def readStringBody : (fuel : Nat) → (text : List Char) → Except Stop (List Char × List Char)
  | 0, _ => stopAt .endInString []
  | _, [] => stopAt .endInString []
  | fuel + 1, c :: rest =>
    if c = '"' then .ok ([], rest)
    else if c = '\\' then do
      let (d, rest) ← readEscape rest
      let (more, rest) ← readStringBody fuel rest
      return (d :: more, rest)
    else if c.toNat < 0x20 then stopAfter .controlCharacter (c :: rest)
    else do
      let (more, rest) ← readStringBody fuel rest
      return (c :: more, rest)

/-- Reads a string whose opening quote is read already. -/
def readString (text : List Char) : Except Stop (String × List Char) := do
  let (cs, rest) ← readStringBody (text.length + 1) text
  return (String.ofList cs, rest)

/-- Passes over an escape, its backslash read already. -/
def skipEscape (text : List Char) : Except Stop (List Char) :=
  match text with
  | [] => stopAt .endInString []
  | 'u' :: rest => (readHex4 rest).map (·.2)
  | c :: rest => if (shortEscape? c).isSome then .ok rest else stopAfter .invalidEscape (c :: rest)

/-- Passes over a string whose opening quote is read already. -/
def skipStringBody : (fuel : Nat) → (text : List Char) → Except Stop (List Char)
  | 0, _ => stopAt .endInString []
  | _, [] => stopAt .endInString []
  | fuel + 1, c :: rest =>
    if c = '"' then .ok rest
    else if c = '\\' then do skipStringBody fuel (← skipEscape rest)
    else if c.toNat < 0x20 then stopAt .controlCharacter (c :: rest)
    else skipStringBody fuel rest

/-- Passes over a string whose opening quote is read already. -/
def skipString (text : List Char) : Except Stop (List Char) :=
  skipStringBody (text.length + 1) text

/-- Whether a character is a decimal digit. -/
def isDigit (c : Char) : Bool :=
  '0' ≤ c && c ≤ '9'

/-- The digits at the start of a text, and what follows them. -/
def spanDigits (text : List Char) : List Char × List Char :=
  (text.takeWhile isDigit, text.dropWhile isDigit)

/-- The whole part of a number: a zero, or digits that begin with another. -/
def readWhole (atEnd : Cause) (text : List Char) : Except Stop (List Char × List Char) :=
  match text with
  | [] => stopAt atEnd []
  | '0' :: rest =>
    if (rest.head?.map isDigit).getD false then stopAfter .invalidNumber rest
    else .ok (['0'], rest)
  | c :: rest =>
    if isDigit c then .ok (spanDigits (c :: rest)) else stopAfter .invalidNumber (c :: rest)

/-- The digits after a decimal point. -/
def readFraction (atEnd : Cause) (text : List Char) : Except Stop (List Char × List Char) :=
  match spanDigits text with
  | ([], []) => stopAt atEnd []
  | ([], rest) => stopAfter .invalidNumber rest
  | (digits, rest) => .ok (digits, rest)

/-- The sign and the digits after the letter of an exponent. -/
def readExponent (atEnd : Cause) (text : List Char) : Except Stop ((Bool × List Char) × List Char) :=
  let (negative, rest) := match text with
    | '+' :: rest => (false, rest)
    | '-' :: rest => (true, rest)
    | rest => (false, rest)
  match rest with
  | [] => stopAt atEnd []
  | c :: _ =>
    if isDigit c then
      let (digits, rest) := spanDigits rest
      .ok ((negative, digits), rest)
    else stopAfter .invalidNumber rest

/-- The parts of a number as they are written. -/
structure Numeral where
  whole : List Char
  fraction : Option (List Char)
  exponent : Option (Bool × List Char)
  deriving DecidableEq, Repr

/-- Reads the parts of a number without its sign. `atEnd` is the cause when the text ends where a
digit must stand. -/
def readNumeral (atEnd : Cause) (text : List Char) : Except Stop (Numeral × List Char) := do
  let (whole, rest) ← readWhole atEnd text
  let (fraction, rest) ← match rest with
    | '.' :: rest => do
      let (digits, rest) ← readFraction atEnd rest
      pure (some digits, rest)
    | _ => pure (none, rest)
  let (exponent, rest) ← match rest with
    | 'e' :: rest | 'E' :: rest => do
      let (e, rest) ← readExponent atEnd rest
      pure (some e, rest)
    | _ => pure (none, rest)
  return (⟨whole, fraction, exponent⟩, rest)

/-- A significand of 64 bits made from digits. The first digit that would exceed it and all digits
after it are left out; the answer also counts these. -/
def significand : (acc : Nat) → List Char → Nat × Nat
  | acc, [] => (acc, 0)
  | acc, c :: rest =>
    let next := acc * 10 + (c.toNat - '0'.toNat)
    if next < Nat.pow 2 64 then significand next rest else (acc, rest.length + 1)

/-- The number that decimal digits spell. -/
def decimalNumber (digits : List Char) : Nat :=
  digits.foldl (fun n c => n * 10 + (c.toNat - '0'.toNat)) 0

/-- A numeral as a fault names it; `none` when it is beyond all numbers. An integer of 64 bits stays
one, anything else becomes a number of binary floating point. -/
def Numeral.found? (n : Numeral) (negative : Bool) : Option Found :=
  let sign := if negative then "-" else ""
  let (whole, dropped) := significand 0 n.whole
  let integer := n.fraction.isNone ∧ n.exponent.isNone ∧ dropped = 0
  if integer ∧ ¬negative then some (.integer (toString whole))
  else if integer ∧ 0 < whole ∧ whole ≤ Nat.pow 2 63 then some (.integer (sign ++ toString whole))
  else
    let fraction := n.fraction.getD []
    let (all, droppedFraction) := significand whole fraction
    let shift : Int := dropped - (fraction.length - droppedFraction : Nat)
    let exponent : Int := match n.exponent with
      | none => 0
      | some (down, digits) => if down then -(decimalNumber digits : Int) else decimalNumber digits
    let start := (Decimal.Binary.ofRatio? all 1).getD ⟨0, 0⟩
    let total := max (-2000000) (shift + exponent)
    (Decimal.Binary.ofDecimal? 8000 start total).map fun x =>
      .floatingPoint (sign ++ String.ofList (Decimal.text x))

/-- The digits that follow the first one with which the number exceeds 31 bits. -/
def digitsBeyond : (acc : Nat) → List Char → List Char
  | _, [] => []
  | acc, c :: rest =>
    let next := acc * 10 + (c.toNat - '0'.toNat)
    if next < Nat.pow 2 31 then digitsBeyond next rest else rest

/-- Reads a number to name it in a fault. An exponent that exceeds 31 bits is not read to its
end. -/
def readNumberFound (negative : Bool) (text : List Char) : Except Stop (Found × List Char) := do
  let (n, rest) ← readNumeral .endInValue text
  match n.found? negative with
  | some found => return (found, rest)
  | none =>
    let unread := (n.exponent.map fun (_, digits) => digitsBeyond 0 digits).getD []
    stopAt .numberOutOfRange (unread ++ rest)

/-- Stops because a value of another type stands here. The value is read as far as the fault names
it. -/
def wrongType {α : Type} (expected : String) (text : List Char) : Except Stop α := do
  let (found, rest) ← match text with
    | 'n' :: rest => do pure (Found.null, ← readWord ['u', 'l', 'l'] rest)
    | 't' :: rest => do pure (Found.boolean true, ← readWord ['r', 'u', 'e'] rest)
    | 'f' :: rest => do pure (Found.boolean false, ← readWord ['a', 'l', 's', 'e'] rest)
    | '-' :: rest => readNumberFound true rest
    | '"' :: rest => do
      let (s, rest) ← readString rest
      pure (Found.string s, rest)
    | '[' :: _ => pure (Found.sequence, text)
    | '\x7b' :: _ => pure (Found.map, text)
    | c :: _ => if isDigit c then readNumberFound false text else stopAfter .expectedValue text
    | [] => stopAfter .expectedValue text
  stopAt (.invalidType found expected) rest

/-- Reads a string value. -/
def readText (text : List Char) : Except Stop (String × List Char) :=
  match skipSpace text with
  | [] => stopAfter .endInValue []
  | '"' :: rest => readString rest
  | rest => wrongType "a string" rest

/-- Reads the null value. -/
def readUnit (text : List Char) : Except Stop (List Char) :=
  match skipSpace text with
  | [] => stopAfter .endInValue []
  | 'n' :: rest => readWord ['u', 'l', 'l'] rest
  | rest => wrongType "unit" rest

/-- Reads a string value or null. -/
def readOptionalText (text : List Char) : Except Stop (Option String × List Char) :=
  match skipSpace text with
  | 'n' :: rest => do return (none, ← readWord ['u', 'l', 'l'] rest)
  | rest => do
    let (s, rest) ← readText rest
    return (some s, rest)

/-- Whether another element follows in a list, and where it begins. -/
def nextElement (first : Bool) (text : List Char) : Except Stop (Bool × List Char) :=
  match skipSpace text with
  | [] => stopAfter .endInList []
  | ']' :: rest => .ok (false, ']' :: rest)
  | c :: rest =>
    if first then .ok (true, c :: rest)
    else if c = ',' then
      match skipSpace rest with
      | [] => stopAfter .endInValue []
      | ']' :: rest => stopAfter .trailingComma (']' :: rest)
      | rest => .ok (true, rest)
    else stopAfter .expectedListEnd (c :: rest)

/-- Closes a list. The answer holds what is left whether or not the list ends here. -/
def closeList (text : List Char) : List Char × Option Stop :=
  match skipSpace text with
  | [] => ([], some ⟨.endInList, [], 1, false⟩)
  | ']' :: rest => (rest, none)
  | ',' :: rest =>
    match skipSpace rest with
    | ']' :: rest => (']' :: rest, some ⟨.trailingComma, ']' :: rest, 1, false⟩)
    | rest => (rest, some ⟨.trailingCharacters, rest, 1, false⟩)
  | rest => (rest, some ⟨.trailingCharacters, rest, 1, false⟩)

/-- Closes an object. The answer holds what is left whether or not the object ends here. -/
def closeObject (text : List Char) : List Char × Option Stop :=
  match skipSpace text with
  | [] => ([], some ⟨.endInObject, [], 1, false⟩)
  | '\x7d' :: rest => (rest, none)
  | ',' :: rest => (',' :: rest, some ⟨.trailingComma, ',' :: rest, 1, false⟩)
  | rest => (rest, some ⟨.trailingCharacters, rest, 1, false⟩)

/-- The outcome of a compound value: its own fault, placed after the close if it is still open,
comes before a fault of the close. -/
def closing {α : Type} (close : List Char → List Char × Option Stop)
    (result : Except Stop (α × List Char)) : Except Stop (α × List Char) :=
  match result with
  | .ok (a, rest) =>
    match close rest with
    | (rest, none) => .ok (a, rest)
    | (_, some stop) => .error stop
  | .error stop => if stop.open_ then stopAt stop.cause (close stop.rest).1 else .error stop

/-- Reads the elements of a list of strings up to its closing bracket. -/
def readTexts : (fuel : Nat) → (first : Bool) → List Char → Except Stop (List String × List Char)
  | 0, _, text => stopAt .endInList text
  | fuel + 1, first, text => do
    let (more, rest) ← nextElement first text
    if more then
      let (s, rest) ← readText rest
      let (others, rest) ← readTexts fuel false rest
      return (s :: others, rest)
    else return ([], rest)

/-- Reads a list of strings. -/
def readTextList (text : List Char) : Except Stop (List String × List Char) :=
  match skipSpace text with
  | [] => stopAfter .endInValue []
  | '[' :: rest => closing closeList (readTexts (text.length + 1) true rest)
  | rest => wrongType "a sequence" rest

/-- Passes over the colon after a key. -/
def readColon (text : List Char) : Except Stop (List Char) :=
  match skipSpace text with
  | [] => stopAfter .endInObject []
  | ':' :: rest => .ok rest
  | rest => stopAfter .expectedColon rest

/-- The key of the next member of an object, if another member follows. -/
def nextKey (first : Bool) (text : List Char) : Except Stop (Option String × List Char) :=
  match skipSpace text with
  | [] => stopAfter .endInObject []
  | '\x7d' :: rest => .ok (none, '\x7d' :: rest)
  | c :: rest =>
    if first then
      if c = '"' then (readString rest).map fun (s, rest) => (some s, rest)
      else stopAfter .keyNotString (c :: rest)
    else if c = ',' then
      match skipSpace rest with
      | [] => stopAfter .endInValue []
      | '"' :: rest => (readString rest).map fun (s, rest) => (some s, rest)
      | '\x7d' :: rest => stopAfter .trailingComma ('\x7d' :: rest)
      | rest => stopAfter .keyNotString rest
    else stopAfter .expectedObjectEnd (c :: rest)

mutual

/-- Passes over a value of any type. -/
def skipValueBody : (fuel : Nat) → List Char → Except Stop (List Char)
  | 0, text => stopAt .endInValue text
  | fuel + 1, text =>
    match skipSpace text with
    | [] => stopAfter .endInValue []
    | 'n' :: rest => readWord ['u', 'l', 'l'] rest
    | 't' :: rest => readWord ['r', 'u', 'e'] rest
    | 'f' :: rest => readWord ['a', 'l', 's', 'e'] rest
    | '-' :: rest => (readNumeral .invalidNumber rest).map (·.2)
    | '"' :: rest => skipString rest
    | '[' :: rest => skipElements fuel true rest
    | '\x7b' :: rest => skipMembers fuel true rest
    | c :: rest =>
      if isDigit c then (readNumeral .invalidNumber (c :: rest)).map (·.2)
      else stopAfter .expectedValue (c :: rest)

/-- Passes over the elements of a list and its closing bracket. -/
def skipElements : (fuel : Nat) → (first : Bool) → List Char → Except Stop (List Char)
  | 0, _, text => stopAt .endInList text
  | fuel + 1, first, text =>
    match skipSpace text with
    | [] => stopAfter .endInList []
    | ']' :: rest => .ok rest
    | c :: rest =>
      if first then
        match skipValueBody fuel (c :: rest) with
        | .ok rest => skipElements fuel false rest
        | .error stop => .error stop
      else if c = ',' then
        match skipValueBody fuel rest with
        | .ok rest => skipElements fuel false rest
        | .error stop => .error stop
      else stopAfter .expectedListEnd (c :: rest)

/-- Passes over the members of an object and its closing brace. -/
def skipMembers : (fuel : Nat) → (first : Bool) → List Char → Except Stop (List Char)
  | 0, _, text => stopAt .endInObject text
  | fuel + 1, first, text =>
    match skipSpace text with
    | [] => stopAfter .endInObject []
    | '\x7d' :: rest => .ok rest
    | c :: rest =>
      if first then skipMember fuel (c :: rest)
      else if c = ',' then skipMember fuel rest
      else stopAfter .expectedObjectEnd (c :: rest)

/-- Passes over a key, its colon and its value, and over the members that follow. -/
def skipMember : (fuel : Nat) → List Char → Except Stop (List Char)
  | 0, text => stopAt .endInObject text
  | fuel + 1, text =>
    match skipSpace text with
    | [] => stopAfter .endInObject []
    | '"' :: rest =>
      match (skipString rest).bind readColon with
      | .error stop => .error stop
      | .ok rest =>
        match skipValueBody fuel rest with
        | .ok rest => skipMembers fuel false rest
        | .error stop => .error stop
    | rest => stopAfter .keyNotString rest

end

/-- Passes over a value of any type. Every second step takes at least one character. -/
def skipValue (text : List Char) : Except Stop (List Char) :=
  skipValueBody (2 * text.length + 2) text

/-- A word list as a fault enumerates it. -/
def oneOf : List String → String
  | [a] => "`" ++ a ++ "`"
  | [a, b] => "`" ++ a ++ "` or `" ++ b ++ "`"
  | names => "one of " ++ String.intercalate ", " (names.map fun n => "`" ++ n ++ "`")

/-- What a fault calls a value. -/
def Found.text : Found → String
  | null => "null"
  | boolean b => "boolean `" ++ (if b then "true" else "false") ++ "`"
  | integer digits => "integer `" ++ digits ++ "`"
  | floatingPoint digits => "floating point `" ++ digits ++ "`"
  | string s => "string " ++ Text.quoted s
  | map => "map"
  | sequence => "sequence"

/-- What a cause says. -/
def Cause.text : Cause → String
  | endInList => "EOF while parsing a list"
  | endInObject => "EOF while parsing an object"
  | endInString => "EOF while parsing a string"
  | endInValue => "EOF while parsing a value"
  | expectedColon => "expected `:`"
  | expectedListEnd => "expected `,` or `]`"
  | expectedObjectEnd => "expected `,` or `\x7d`"
  | expectedIdent => "expected ident"
  | expectedValue => "expected value"
  | invalidEscape => "invalid escape"
  | invalidNumber => "invalid number"
  | numberOutOfRange => "number out of range"
  | controlCharacter => "control character (\\u0000-\\u001F) found while parsing a string"
  | keyNotString => "key must be a string"
  | loneSurrogate => "lone leading surrogate in hex escape"
  | endOfHexEscape => "unexpected end of hex escape"
  | trailingComma => "trailing comma"
  | trailingCharacters => "trailing characters"
  | invalidType found expected => "invalid type: " ++ found.text ++ ", expected " ++ expected
  | missingField name => "missing field `" ++ name ++ "`"
  | duplicateField name => "duplicate field `" ++ name ++ "`"
  | unknownVariant name known => "unknown variant `" ++ name ++ "`, expected " ++ oneOf known
  | invalidLength found expected =>
    "invalid length " ++ toString found ++ ", expected " ++ expected

/-- What a fault says. -/
def Fault.message (f : Fault) : String :=
  f.cause.text ++ " at line " ++ toString f.line ++ " column " ++ toString f.column

/-- The line and the column after a character. -/
def afterChar (place : Nat × Nat) (c : Char) : Nat × Nat :=
  if c = '\n' then (place.1 + 1, 0) else (place.1, place.2 + c.utf8Size)

/-- The line and the column after so many octets of a text. -/
def afterOctets : (count : Nat) → (place : Nat × Nat) → List Char → Nat × Nat
  | _, place, [] => place
  | count, place, c :: rest =>
    if c.utf8Size ≤ count then afterOctets (count - c.utf8Size) (afterChar place c) rest
    else (place.1, place.2 + count)

/-- The fault of a stop in a text. -/
def Stop.fault (stop : Stop) (text : List Char) : Fault :=
  let before := text.take (text.length - stop.rest.length)
  let (line, column) := afterOctets stop.beyond (before.foldl afterChar (1, 0)) stop.rest
  ⟨stop.cause, line, column⟩

/-- Reads a whole text: blanks may follow the value, but nothing else. -/
def readDocument {α : Type} (read : List Char → Except Stop (α × List Char)) (s : String) :
    Except Fault α :=
  let text := s.toList
  let result := do
    let (a, rest) ← read text
    match skipSpace rest with
    | [] => return a
    | rest => stopAfter .trailingCharacters rest
  result.mapError (·.fault text)

end PeerTrust.Json
