import PeerTrust.Domain.Classes
import PeerTrust.Domain.Mapping
import PeerTrust.Domain.Normal
import PeerTrust.Text.Blank
import PeerTrust.Text.Punycode

/-!
# Labels of domain names

A label is what stands between dots. One with characters beyond ASCII has a spelling in ASCII,
`xn--` and the digits of the label; both are known of every label here. The label in characters may
not begin with a mark, and invisible joiners may stand only where they make a difference.
-/

namespace PeerTrust.Domain

/-- A label of a domain name. -/
structure Label where
  /-- The label in characters. -/
  text : List Char
  /-- The label in ASCII. -/
  ascii : List Char
  deriving DecidableEq, Repr

/-- How the spelling in ASCII of other characters begins. -/
def spellingMark : List Char := ['x', 'n', '-', '-']

/-- The longest label of other characters that is spelled in ASCII. -/
def longestText : Nat := 1000

/-- The longest spelling that is read, not counting its beginning. -/
def longestSpelling : Nat := 2000

/-- The characters of ASCII that no label of a host in a URL holds. -/
def isForbidden (c : Char) : Bool :=
  c ≤ ' ' || c = '\x7f'
    || ['%', '#', '/', ':', '<', '>', '?', '@', '[', '\\', ']', '^', '|'].contains c

/-- Whether a text is all ASCII. -/
def isAscii (text : List Char) : Bool :=
  text.all (·.toNat < 0x80)

/-- Whether a text, given backwards, ends in a sign that silences a vowel. -/
def endsInVirama (before : List Char) : Bool :=
  before.head?.any viramaChars.contains

/-- Whether the first character that joining does not pass over is in a set. -/
def joinsTo (joining : Text.CharRanges) (text : List Char) : Bool :=
  (text.dropWhile transparentJoining.contains).head?.any joining.contains

/-- Whether an invisible joiner or its opposite may stand between two texts, the one before given
backwards. -/
def joinerStands (before : List Char) (c : Char) (after : List Char) : Bool :=
  if c = '\u200d' then endsInVirama before
  else if c = '\u200c' then
    endsInVirama before || (joinsTo leftJoining before && joinsTo rightJoining after)
  else true

/-- Whether all invisible joiners of a text stand where they may; what comes before is given
backwards. -/
def joinersStand (before : List Char) : List Char → Bool
  | [] => true
  | c :: rest => joinerStands before c rest && joinersStand (c :: before) rest

/-- Whether a text may be a label in characters. -/
def isLabelText (text : List Char) : Bool :=
  !(text.head?.any markChars.contains) && joinersStand [] text

/-- The label that a spelling in ASCII stands for. The characters have to be such that a domain name
keeps them, and in normal form. -/
def readSpelling? (spelling : List Char) : Option (List Char) :=
  let digits := spelling.drop spellingMark.length
  if spelling.getLast? = some '-' ∨ longestSpelling < digits.length then none
  else
    match Punycode.decode digits with
    | none => none
    | some text =>
      if text.all keptChars.contains ∧ normalForm text = text ∧ isLabelText text then some text
      else none

/-- The label of a text in which every character is one that a domain name keeps and that is in
normal form. -/
def Label.ofText? (text : List Char) : Option Label :=
  if text.any isForbidden then none
  else if Text.startsWith text spellingMark then
    (readSpelling? text).map fun chars => ⟨chars, text⟩
  else if isAscii text then some ⟨text, text⟩
  else if longestText < text.length ∨ ¬isLabelText text then none
  else some ⟨text, spellingMark ++ Punycode.encode text⟩

end PeerTrust.Domain
