import PeerTrust.Asn1.Element

/-!
# Values of ASN.1 elements

The contents of an element as a number, a bit string, a text and so on. Each reader looks at the
contents alone; the tag is checked by the `?` functions that name a universal type, so a value with
a tag of its own can be read by its contents.
-/

namespace PeerTrust.Asn1

/-- Numbers of the universal tags in use. -/
def tagBoolean : Nat := 1
def tagInteger : Nat := 2
def tagBitString : Nat := 3
def tagOctetString : Nat := 4
def tagNull : Nat := 5
def tagObject : Nat := 6
def tagEnumerated : Nat := 10
def tagUtf8 : Nat := 12
def tagSequence : Nat := 16
def tagSet : Nat := 17
def tagPrintable : Nat := 19
def tagTeletex : Nat := 20
def tagIa5 : Nat := 22
def tagUtcTime : Nat := 23
def tagGeneralizedTime : Nat := 24
def tagUniversalString : Nat := 28
def tagBmp : Nat := 30

/-- Whether contents are an integer: not empty, and no octet that only repeats the sign. -/
def isInteger : Bytes → Bool
  | [] => false
  | [_] => true
  | a :: b :: _ => !(a == 0 && b < 0x80) && !(a == 0xFF && b ≥ 0x80)

/-- The number that contents spell in two's complement. -/
def integerValue (bs : Bytes) : Int :=
  match bs with
  | [] => 0
  | b :: _ => if b < 0x80 then Bytes.toNat bs else (Bytes.toNat bs : Int) - Nat.pow 256 bs.length

/-- Contents that spell a natural number as an integer. -/
def naturalContents (n : Nat) : Bytes :=
  match Bytes.ofNatMinimal n with
  | [] => [0]
  | b :: rest => if b < 0x80 then b :: rest else 0 :: b :: rest

/-- An integer element. -/
def writeNatural (n : Nat) : Bytes :=
  writePrimitive tagInteger (naturalContents n)

/-- Contents that spell an integer in two's complement. -/
def integerContents : Int → Bytes
  | .ofNat n => naturalContents n
  | .negSucc n => (naturalContents n).map (~~~ ·)

/-- An integer element, negative numbers included. -/
def writeInteger (n : Int) : Bytes :=
  writePrimitive tagInteger (integerContents n)

/-- Whether contents are an object identifier: whole numbers in base 128 without leading zeros. -/
def isObject (bs : Bytes) : Bool :=
  go true bs
where
  /-- `start` says that a number begins here. -/
  go (start : Bool) : Bytes → Bool
    | [] => false
    | [b] => b < 0x80
    | b :: rest => !(start && b == 0x80) && go (b < 0x80) rest

/-- A bit string: how many bits of the last octet are unused, and the octets. -/
structure BitString where
  unused : Nat
  octets : Bytes
  deriving DecidableEq, Repr

/-- The octets with the unused bits of the last one cleared. -/
def clearUnused (unused : Nat) (bs : Bytes) : Bytes :=
  match bs.reverse with
  | [] => []
  | last :: rest => (UInt8.ofNat (last.toNat / Nat.pow 2 unused * Nat.pow 2 unused) :: rest).reverse

/-- Contents as a bit string. Unused bits read as zero. -/
def bitStringOf? : Bytes → Option BitString
  | [] => none
  | b :: rest => if b < 8 then some ⟨b.toNat, clearUnused b.toNat rest⟩ else none

/-- A bit string element. Without octets no bit is unused. -/
def BitString.write (s : BitString) : Bytes :=
  let unused := if s.octets.isEmpty then 0 else s.unused
  writePrimitive tagBitString (UInt8.ofNat unused :: clearUnused unused s.octets)

/-- Whether contents fit the string type with a universal tag number: sixteen-bit and thirty-two-bit
characters are whole, and times have room for their digits. -/
def fitsString (number : Nat) (contents : Bytes) : Bool :=
  if number = tagBmp then contents.length % 2 = 0
  else if number = tagUniversalString then contents.length % 4 = 0
  else if number = tagUtcTime then contents.length ≥ 13
  else if number = tagGeneralizedTime then contents.length ≥ 15
  else true

namespace Element

/-- The contents of a string that may be cut into parts, with at most `depth` more levels of parts
inside parts. -/
def gather : (depth : Nat) → Element → Option Bytes
  | depth, e =>
    if e.constructed then
      match depth with
      | 0 => none
      | depth + 1 => do
        let parts ← e.items
        let texts ← parts.mapM (gather depth)
        return texts.flatten
    else some e.body

/-- The contents of a string element, put together from its parts. -/
def stringContents? (e : Element) : Option Bytes :=
  gather 6 e

/-- The contents of an element that may not be cut into parts. -/
def plainContents? (e : Element) : Option Bytes :=
  if e.constructed then none else some e.body

/-- Integer contents. -/
def integerContents? (e : Element) : Option Bytes := do
  let bs ← e.plainContents?
  if isInteger bs then some bs else none

/-- The elements of a sequence. -/
def sequence? (e : Element) : Option (List Element) :=
  if e.isUniversal tagSequence ∧ e.constructed then e.items else none

/-- The elements of a sequence of like elements, where the form of the outer element is free. -/
def sequenceOf? (e : Element) : Option (List Element) :=
  if e.isUniversal tagSequence then e.items else none

/-- The elements of a set of like elements. -/
def setOf? (e : Element) : Option (List Element) :=
  if e.isUniversal tagSet then e.items else none

/-- The one element inside an explicit tag. -/
def explicit? (e : Element) : Option Element :=
  if e.constructed then
    match e.items with
    | some [inner] => some inner
    | _ => none
  else none

/-- An integer. -/
def integer? (e : Element) : Option Int :=
  if e.isUniversal tagInteger then e.integerContents?.map integerValue else none

/-- A number without sign; any contents spell one. -/
def unsigned? (e : Element) : Option Nat :=
  if e.isUniversal tagInteger then e.plainContents?.map Bytes.toNat else none

/-- An object identifier, as its contents. -/
def object? (e : Element) : Option Bytes := do
  let bs ← e.plainContents?
  if e.isUniversal tagObject ∧ isObject bs then some bs else none

/-- Contents of a truth value. -/
def booleanContents? (e : Element) : Option Bool := do
  match ← e.plainContents? with
  | [b] => some (b != 0)
  | _ => none

/-- A truth value; every octet but zero is true. -/
def boolean? (e : Element) : Option Bool :=
  if e.isUniversal tagBoolean then e.booleanContents? else none

/-- Contents of a bit string. -/
def bitStringContents? (e : Element) : Option BitString :=
  e.stringContents?.bind bitStringOf?

/-- A bit string. -/
def bitString? (e : Element) : Option BitString :=
  if e.isUniversal tagBitString then e.bitStringContents? else none

/-- An octet string. -/
def octetString? (e : Element) : Option Bytes :=
  if e.isUniversal tagOctetString then e.stringContents? else none

end Element

/-- A value of any type, as far as it is written again. -/
inductive AnyValue where
  /-- A sequence, a set, or an element of another class than universal, octet for octet. -/
  | verbatim (raw : Bytes)
  /-- Contents of a universal type, checked. -/
  | universal (number : Nat) (contents : Bytes)
  deriving DecidableEq, Repr

namespace AnyValue

/-- Reads a value of any type. -/
def ofElement? (e : Element) : Option AnyValue :=
  if e.tag.cls ≠ .universal then some (.verbatim e.raw)
  else if e.tag.number = tagSequence ∨ e.tag.number = tagSet then
    if e.constructed then some (.verbatim e.raw) else none
  else if e.tag.number = tagNull then
    match e.plainContents? with
    | some [] => some (.universal tagNull [])
    | _ => none
  else if e.tag.number = tagBoolean then
    match e.plainContents? with
    | some [b] => some (.universal tagBoolean [b])
    | _ => none
  else if e.tag.number = tagInteger ∨ e.tag.number = tagEnumerated then
    e.integerContents?.map (.universal e.tag.number)
  else if e.tag.number = tagObject then
    e.object?.map (.universal tagObject)
  else if e.tag.number = tagBitString then
    e.bitStringContents?.map fun s =>
      let unused := if s.octets.isEmpty then 0 else s.unused
      .universal tagBitString (UInt8.ofNat unused :: s.octets)
  else do
    let contents ← e.stringContents?
    if fitsString e.tag.number contents then some (.universal e.tag.number contents) else none

/-- Writes a value of any type. -/
def write : AnyValue → Bytes
  | verbatim raw => raw
  | universal number contents => writePrimitive number contents

end AnyValue

/-- Removes the element with a context-specific tag from the front of a list, if it is there. -/
def takeContextual (number : Nat) : List Element → Option Element × List Element
  | e :: rest => if e.isContextual number then (some e, rest) else (none, e :: rest)
  | [] => (none, [])

/-- Removes the element of a universal type from the front of a list, if it is there. -/
def takeUniversal (number : Nat) : List Element → Option Element × List Element
  | e :: rest => if e.isUniversal number then (some e, rest) else (none, e :: rest)
  | [] => (none, [])

/-- A value that may be absent: `none` when it is there but cannot be read. -/
def optional? {α : Type} (read : Element → Option α) : Option Element → Option (Option α)
  | none => some none
  | some e => (read e).map some

end PeerTrust.Asn1
