import PeerTrust.Asn1.ObjectId
import PeerTrust.Asn1.Value
import PeerTrust.Text.Utf8

/-!
# Distinguished names

A name is a sequence of sets of attributes. Names are compared in a canonical form: texts as UTF-8
without blanks at the ends, with single blanks inside and ASCII letters in lower case; other values
as they stand; the attributes of one set sorted by their encoding. A name whose texts have no such
form is no name.
-/

namespace PeerTrust.X509

open PeerTrust.Asn1

/-- One attribute of a name. -/
structure Attribute where
  oid : ObjectId
  /-- The universal tag number of the value. -/
  tag : Nat
  /-- The contents of the value; all octets of it when the value is a sequence. -/
  value : Bytes
  deriving DecidableEq, Repr

/-- The tag numbers that the value of an attribute may have. -/
def attributeTags : List Nat :=
  [3, 7, 8, 9, 11, 12, 13, 14, 15, 16, 18, 19, 20, 22, 28, 29, 30]

/-- The value of an attribute, with its tag number. -/
def attributeValue? (e : Element) : Option (Nat × Bytes) :=
  if e.tag.cls ≠ .universal ∨ ¬attributeTags.contains e.tag.number then none
  else if e.tag.number = tagSequence then
    if e.constructed then some (tagSequence, e.raw) else none
  else if e.tag.number = tagBitString then
    e.bitStringContents?.map fun s => (tagBitString, s.octets)
  else
    match e.stringContents? with
    | some contents =>
      if fitsString e.tag.number contents then some (e.tag.number, contents) else none
    | none => none

/-- An attribute: its type and its value. -/
def Attribute.ofElement? (e : Element) : Option Attribute :=
  match e.sequence? with
  | some [type, value] => do
    let oid ← type.object?
    let (tag, contents) ← attributeValue? value
    return ⟨oid, tag, contents⟩
  | _ => none

/-- The blanks that the canonical form removes. -/
def isNameBlank (b : UInt8) : Bool :=
  b == 0x20 || (0x09 ≤ b && b ≤ 0x0D)

/-- Each run of blanks as one blank. -/
def singleBlanks : (inRun : Bool) → Bytes → Bytes
  | _, [] => []
  | inRun, b :: rest =>
    if isNameBlank b then
      if inRun then singleBlanks true rest else 0x20 :: singleBlanks true rest
    else b :: singleBlanks false rest

/-- The lower-case form of an ASCII letter. -/
def lowerOctet (b : UInt8) : UInt8 :=
  if 0x41 ≤ b ∧ b ≤ 0x5A then b + 0x20 else b

/-- A text without blanks at its ends, with single blanks inside and ASCII letters lowered. -/
def foldText (text : Bytes) : Bytes :=
  let inner := (((text.dropWhile isNameBlank).reverse).dropWhile isNameBlank).reverse
  (singleBlanks false inner).map lowerOctet

/-- A character with a code that is one. -/
def charOf? (n : Nat) : Option Char :=
  if n < 0xD800 ∨ (0xDFFF < n ∧ n < 0x110000) then some (Char.ofNat n) else none

/-- Characters of two octets each. -/
def wide16 : Bytes → List Nat
  | a :: b :: rest => Bytes.toNat [a, b] :: wide16 rest
  | _ => []

/-- Characters of four octets each. -/
def wide32 : Bytes → List Nat
  | a :: b :: c :: d :: rest => Bytes.toNat [a, b, c, d] :: wide32 rest
  | _ => []

/-- A text of the given string type in UTF-8; `none` when it holds no text. Types that are not
texts give `none` inside. -/
def textOf? (tag : Nat) (value : Bytes) : Option (Option Bytes) :=
  let ofCodes (codes : List Nat) := (codes.mapM charOf?).map fun cs => some (Utf8.encode cs)
  if tag = tagUtf8 then (Utf8.decode? value).map fun _ => some value
  else if tag = tagBmp then ofCodes (wide16 value)
  else if tag = tagUniversalString then ofCodes (wide32 value)
  else if tag = tagPrintable ∨ tag = tagTeletex ∨ tag = tagIa5 then
    ofCodes (value.map UInt8.toNat)
  else some none

/-- The value of an attribute as it is written again. -/
def writeValue (tag : Nat) (value : Bytes) : Bytes :=
  if tag = tagSequence then value
  else if tag = tagBitString then writePrimitive tagBitString (0 :: value)
  else writePrimitive tag value

/-- The canonical encoding of an attribute. -/
def Attribute.canonical? (a : Attribute) : Option Bytes :=
  match textOf? a.tag a.value with
  | none => none
  | some folded =>
    let value := match folded with
      | some text => writePrimitive tagUtf8 (foldText text)
      | none => writeValue a.tag a.value
    some (writeSequence [writePrimitive tagObject a.oid, value])

/-- A distinguished name. -/
structure Name where
  /-- All octets of the name's encoding. -/
  raw : Bytes
  /-- The sets of attributes in order. -/
  sets : List (List Attribute)
  /-- The canonical form, which decides whether names are equal. -/
  canonical : Bytes
  deriving DecidableEq, Repr

/-- Inserts an encoding into a sorted list of them. -/
def insertEncoding (x : Bytes) : List Bytes → List Bytes
  | [] => [x]
  | y :: rest => if y.lt x then y :: insertEncoding x rest else x :: y :: rest

/-- The canonical encoding of a set of attributes. -/
def canonicalSet? (set : List Attribute) : Option Bytes :=
  (set.mapM Attribute.canonical?).map fun parts =>
    write ⟨.universal, tagSet⟩ true (parts.foldr insertEncoding []).flatten

/-- The canonical form of sets of attributes; an empty set leaves no trace. -/
def canonicalName? (sets : List (List Attribute)) : Option Bytes :=
  ((sets.filter (!·.isEmpty)).mapM canonicalSet?).map List.flatten

/-- Reads a name. -/
def Name.ofElement? (e : Element) : Option Name := do
  let items ← e.sequenceOf?
  let sets ← items.mapM fun set => do
    let attributes ← set.setOf?
    attributes.mapM Attribute.ofElement?
  let canonical ← canonicalName? sets
  return ⟨e.raw, sets, canonical⟩

namespace Name

/-- The attributes in order. -/
def attributes (n : Name) : List Attribute :=
  n.sets.flatten

/-- Whether two names are equal. -/
def same (a b : Name) : Bool :=
  a.canonical == b.canonical

/-- Whether the name has no attribute. -/
def isEmpty (n : Name) : Bool :=
  n.attributes.isEmpty

end Name

/-- A text that may be compared with a host name: valid UTF-8 without a NUL. -/
def cleanText? (value : Bytes) : Option (List Char) :=
  if value.contains 0 then none else Utf8.decode? value

/-- A text as shown: ill-formed stretches as U+FFFD, a NUL as a backslash and a zero. -/
def shownText (value : Bytes) : List Char :=
  (Utf8.decodeLossy value).flatMap fun c => if c = '\x00' then ['\\', '0'] else [c]

/-- One attribute as shown: the short name of its type, an equals sign, its text. -/
def Attribute.shown (a : Attribute) : List Char :=
  ((ObjectId.shortName? a.oid).getD "UNDEF").toList ++ '=' :: shownText a.value

/-- A name as shown, attributes in order. -/
def Name.shown (n : Name) : String :=
  String.ofList (List.intercalate [',', ' '] (n.attributes.map Attribute.shown))

/-- The type of a common name. -/
def oidCommonName : ObjectId := ObjectId.dotted "2.5.4.3"

/-- The type of an e-mail address. -/
def oidEmailAddress : ObjectId := ObjectId.dotted "1.2.840.113549.1.9.1"

end PeerTrust.X509
