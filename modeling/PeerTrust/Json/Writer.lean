import PeerTrust.Text.Hex

/-!
# Writing JSON texts

The compact form: no blanks, members in a fixed order, and in strings an escape for the quote, the
backslash and the control characters only.
-/

namespace PeerTrust.Json

/-- One character inside a string. -/
def writeChar (c : Char) : List Char :=
  if c = '"' then ['\\', '"']
  else if c = '\\' then ['\\', '\\']
  else if c = '\x08' then ['\\', 'b']
  else if c = '\x0c' then ['\\', 'f']
  else if c = '\n' then ['\\', 'n']
  else if c = '\r' then ['\\', 'r']
  else if c = '\t' then ['\\', 't']
  else if c.toNat < 0x20 then
    ['\\', 'u', '0', '0', Hex.digit 'a' (c.toNat / 16), Hex.digit 'a' (c.toNat % 16)]
  else [c]

/-- A string. -/
def writeString (s : String) : List Char :=
  '"' :: s.toList.flatMap writeChar ++ ['"']

/-- A list of strings. -/
def writeStrings (l : List String) : List Char :=
  '[' :: List.intercalate [','] (l.map writeString) ++ [']']

/-- An object with members that are written already. -/
def writeObject (members : List (String × List Char)) : List Char :=
  '\x7b' :: List.intercalate [','] (members.map fun (name, v) => writeString name ++ ':' :: v)
    ++ ['\x7d']

end PeerTrust.Json
