/-!
# Blank characters

The characters with the property White_Space, and trimming by them. The property is that of the
Unicode standard; its members have not changed for many versions.
-/

namespace PeerTrust.Text

/-- The characters with the property White_Space. -/
def isBlank (c : Char) : Bool :=
  let n := c.toNat
  (0x09 ≤ n && n ≤ 0x0D) || n = 0x20 || n = 0x85 || n = 0xA0 || n = 0x1680
    || (0x2000 ≤ n && n ≤ 0x200A) || n = 0x2028 || n = 0x2029 || n = 0x202F || n = 0x205F
    || n = 0x3000

/-- A list without its last elements that satisfy `p`. -/
def dropEndWhile {α : Type} (p : α → Bool) (l : List α) : List α :=
  (l.reverse.dropWhile p).reverse

/-- A text without the blanks around it. -/
def trim (text : List Char) : List Char :=
  dropEndWhile isBlank (text.dropWhile isBlank)

/-- The lower-case form of an ASCII letter; any other character stays. -/
def lowerAscii (text : List Char) : List Char :=
  text.map Char.toLower

/-- A text cut at the first occurrence of a character, which is dropped. -/
def splitOnce? (sep : Char) : List Char → Option (List Char × List Char)
  | [] => none
  | c :: rest =>
    if c = sep then some ([], rest)
    else (splitOnce? sep rest).map fun (before, after) => (c :: before, after)

/-- A text cut at every occurrence of a character, which is dropped. -/
def splitAll (sep : Char) : List Char → List (List Char)
  | [] => [[]]
  | c :: rest =>
    if c = sep then [] :: splitAll sep rest
    else match splitAll sep rest with
      | part :: parts => (c :: part) :: parts
      | [] => [[c]]

/-- Whether a text begins with another. -/
def startsWith (text start : List Char) : Bool :=
  start.isPrefixOf text

/-- Whether a text occurs inside another. -/
def occursIn (part : List Char) : List Char → Bool
  | [] => part.isEmpty
  | c :: rest => part.isPrefixOf (c :: rest) || occursIn part rest

end PeerTrust.Text
