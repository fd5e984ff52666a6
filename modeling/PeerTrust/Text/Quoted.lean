import PeerTrust.Text.Printable

/-!
# Quoted text

How a text is shown inside a diagnostic: between double quotes, with the quote, the backslash and
every character that has no visible form of its own written as an escape. A single character
stands between single quotes, and there the single quote is escaped instead.
-/

namespace PeerTrust.Text

/-- The escape by code point, in the fewest hexadecimal digits. -/
def codePointEscape (c : Char) : List Char :=
  "\\u\x7b".toList ++ Hex.ofNat c.toNat ++ ['\x7d']

/-- One character as written between quotes of the given kind. -/
def escapeChar (quote c : Char) : List Char :=
  if c = '\x00' then ['\\', '0']
  else if c = '\t' then ['\\', 't']
  else if c = '\r' then ['\\', 'r']
  else if c = '\n' then ['\\', 'n']
  else if c = '\\' ∨ c = quote then ['\\', c]
  else if ' ' ≤ c ∧ c ≤ '~' then [c]
  else if graphemeExtend.contains c ∨ unprintable.contains c then codePointEscape c
  else [c]

/-- A text between double quotes. -/
def quoted (text : String) : String :=
  String.ofList ('"' :: text.toList.flatMap (escapeChar '"') ++ ['"'])

/-- A character between single quotes. -/
def quotedChar (c : Char) : String :=
  String.ofList ('\'' :: escapeChar '\'' c ++ ['\''])

/-- A list of texts, each quoted, between brackets. -/
def quotedList (texts : List String) : String :=
  "[" ++ String.intercalate ", " (texts.map quoted) ++ "]"

/-- The fields of a record with a name, each with its shown value. -/
def record (name : String) (fields : List (String × String)) : String :=
  name ++ " \x7b " ++ String.intercalate ", " (fields.map fun (k, v) => k ++ ": " ++ v) ++ " \x7d"

end PeerTrust.Text
