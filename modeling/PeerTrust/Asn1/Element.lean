import PeerTrust.Bytes

/-!
# Elements of an ASN.1 encoding

An element is an identifier, a length and contents. Reading accepts any BER: numbers of any size,
lengths with leading zeros, and constructed elements of indefinite length, which end where an
end-of-contents mark closes them. Nothing inside the contents is looked at until `items` asks for
the elements they hold.
-/

namespace PeerTrust.Asn1

/-- The four classes of tags. -/
inductive TagClass where
  | universal
  | application
  | contextual
  | owned
  deriving DecidableEq, Repr

/-- What kind of value an element holds. -/
structure Tag where
  cls : TagClass
  number : Nat
  deriving DecidableEq, Repr

/-- The class that the two top bits of an identifier octet name. -/
def TagClass.ofOctet (b : UInt8) : TagClass :=
  if b < 0x40 then .universal
  else if b < 0x80 then .application
  else if b < 0xC0 then .contextual
  else .owned

/-- The two top bits of an identifier octet. -/
def TagClass.bits : TagClass → Nat
  | universal => 0x00
  | application => 0x40
  | contextual => 0x80
  | owned => 0xC0

/-- The end-of-contents mark at the start of an octet string. -/
def closes : Bytes → Bool
  | 0 :: 0 :: _ => true
  | _ => false

/-- A tag number in base 128, most significant digit first; the top bit says that more follow. -/
def readNumber : (value : Nat) → Bytes → Option (Nat × Bytes)
  | _, [] => none
  | value, b :: rest =>
    if b < 0x80 then some (value * 128 + b.toNat, rest)
    else
      let value := value * 128 + (b.toNat - 128)
      if value < 0x1000000 then readNumber value rest else none

/-- A length; `none` inside the answer stands for an indefinite one. -/
def readLength : Bytes → Option (Option Nat × Bytes)
  | [] => none
  | b :: rest =>
    if b < 0x80 then some (some b.toNat, rest)
    else if b = 0x80 then some (none, rest)
    else
      let count := b.toNat - 128
      if rest.length < count then none
      else some (some (Bytes.toNat (rest.take count)), rest.drop count)

/-- Identifier and length of an element. -/
structure Header where
  tag : Tag
  constructed : Bool
  /-- How many octets of contents there are, unless an end-of-contents mark tells. -/
  length : Option Nat
  deriving DecidableEq, Repr

/-- A tag number: five bits of the identifier octet, or the number that follows it. -/
def readTagNumber (identifier : UInt8) (rest : Bytes) : Option (Nat × Bytes) :=
  if identifier.toNat % 32 = 31 then readNumber 0 rest else some (identifier.toNat % 32, rest)

/-- Whether the identifier octet says that the contents are elements. -/
def isConstructed (identifier : UInt8) : Bool :=
  identifier.toNat / 32 % 2 == 1

/-- Reads the identifier and the length at the start of an octet string. Only an element that
holds elements may have an indefinite length. -/
def Header.read : Bytes → Option (Header × Bytes)
  | [] => none
  | b :: rest =>
    match readTagNumber b rest with
    | none => none
    | some (number, rest) =>
      match readLength rest with
      | none => none
      | some (length, rest) =>
        if length.isSome || isConstructed b then
          some (⟨⟨.ofOctet b, number⟩, isConstructed b, length⟩, rest)
        else none

theorem readNumber_length {value : Nat} {bs rest : Bytes} {n : Nat}
    (h : readNumber value bs = some (n, rest)) : rest.length < bs.length := by
  induction bs generalizing value with
  | nil => simp [readNumber] at h
  | cons b bs ih =>
    simp only [readNumber] at h
    split at h
    · simp only [Option.some.injEq, Prod.mk.injEq] at h
      simp [← h.2]
    · split at h
      · exact Nat.lt_trans (ih h) (by simp)
      · simp at h

theorem readLength_length {bs rest : Bytes} {n : Option Nat}
    (h : readLength bs = some (n, rest)) : rest.length < bs.length := by
  cases bs with
  | nil => simp [readLength] at h
  | cons b bs =>
    simp only [readLength] at h
    split at h
    · simp only [Option.some.injEq, Prod.mk.injEq] at h
      simp [← h.2]
    · split at h
      · simp only [Option.some.injEq, Prod.mk.injEq] at h
        simp [← h.2]
      · split at h
        · simp at h
        · simp only [Option.some.injEq, Prod.mk.injEq] at h
          simp only [← h.2, List.length_drop, List.length_cons]
          omega

theorem readTagNumber_length {b : UInt8} {bs rest : Bytes} {n : Nat}
    (h : readTagNumber b bs = some (n, rest)) : rest.length ≤ bs.length := by
  simp only [readTagNumber] at h
  split at h
  · exact Nat.le_of_lt (readNumber_length h)
  · simp only [Option.some.injEq, Prod.mk.injEq] at h
    simp [← h.2]

theorem Header.read_length {bs rest : Bytes} {h : Header}
    (e : Header.read bs = some (h, rest)) : rest.length < bs.length := by
  cases bs with
  | nil => simp [Header.read] at e
  | cons b bs =>
    simp only [Header.read] at e
    split at e
    · simp at e
    · rename_i h₁
      split at e
      · simp at e
      · rename_i h₂
        have le₁ := readTagNumber_length h₁
        have le₂ := readLength_length h₂
        split at e
        · simp only [Option.some.injEq, Prod.mk.injEq] at e
          rw [← e.2, List.length_cons]
          omega
        · simp at e

/-- How many octets reach to the end-of-contents mark that closes `depth + 1` open elements, the
mark included. -/
def closingSize (depth : Nat) (bs : Bytes) : Option Nat :=
  if closes bs then
    match depth with
    | 0 => some 2
    | depth + 1 => (closingSize depth (bs.drop 2)).map (· + 2)
  else
    match _h : Header.read bs with
    | none => none
    | some (header, rest) =>
      match header.length with
      | none => (closingSize (depth + 1) rest).map (· + (bs.length - rest.length))
      | some n =>
        if n ≤ rest.length then
          (closingSize depth (rest.drop n)).map (· + (bs.length - rest.length + n))
        else none
  termination_by bs.length
  decreasing_by
    · rename_i hc
      have : 2 ≤ bs.length := by
        unfold closes at hc
        split at hc <;> simp_all
      simp only [List.length_drop]
      omega
    · exact Header.read_length _h
    · have := Header.read_length _h
      simp only [List.length_drop]
      omega

/-- An element of an encoding. -/
structure Element where
  tag : Tag
  constructed : Bool
  /-- Whether an end-of-contents mark closes the contents. -/
  indefinite : Bool
  /-- The octets of identifier and length. -/
  head : Bytes
  /-- The octets of the contents, with the mark that closes them. -/
  body : Bytes
  deriving DecidableEq, Repr

namespace Element

/-- All octets of the element. -/
def raw (e : Element) : Bytes :=
  e.head ++ e.body

/-- How many octets of contents an element with the given length has. -/
def contentsSize (length : Option Nat) (rest : Bytes) : Option Nat :=
  match length with
  | some n => if n ≤ rest.length then some n else none
  | none => closingSize 0 rest

/-- Reads the element at the start of an octet string. -/
def read (bs : Bytes) : Option (Element × Bytes) :=
  match Header.read bs with
  | none => none
  | some (header, rest) =>
    match contentsSize header.length rest with
    | none => none
    | some size =>
      let head := bs.take (bs.length - rest.length)
      some (⟨header.tag, header.constructed, header.length.isNone, head, rest.take size⟩,
        rest.drop size)

theorem read_length {bs rest : Bytes} {e : Element} (h : read bs = some (e, rest)) :
    rest.length < bs.length := by
  simp only [read] at h
  split at h
  · simp at h
  · rename_i h₁
    have := Header.read_length h₁
    split at h
    · simp at h
    · simp only [Option.some.injEq, Prod.mk.injEq] at h
      rw [← h.2, List.length_drop]
      omega

/-- The elements that contents hold, to their end. A closing mark must end contents of indefinite
length and may not stand in others. -/
def readAll (indefinite : Bool) (bs : Bytes) : Option (List Element) :=
  if closes bs then
    if indefinite ∧ bs.length = 2 then some [] else none
  else if bs.isEmpty then
    if indefinite then none else some []
  else
    match _h : read bs with
    | none => none
    | some (e, rest) => (readAll indefinite rest).map (e :: ·)
  termination_by bs.length
  decreasing_by exact read_length _h

/-- The elements inside an element. -/
def items (e : Element) : Option (List Element) :=
  readAll e.indefinite e.body

/-- Whether an element has a universal tag of the given number. -/
def isUniversal (e : Element) (number : Nat) : Bool :=
  e.tag == ⟨.universal, number⟩

/-- Whether an element has a context-specific tag of the given number. -/
def isContextual (e : Element) (number : Nat) : Bool :=
  e.tag == ⟨.contextual, number⟩

end Element

/-- An identifier and a length, both in the fewest octets. -/
def writeHeader (tag : Tag) (constructed : Bool) (length : Nat) : Bytes :=
  let flags := tag.cls.bits + if constructed then 0x20 else 0
  let identifier : Bytes :=
    if tag.number < 31 then [UInt8.ofNat (flags + tag.number)]
    else UInt8.ofNat (flags + 31) :: base128 tag.number
  let size : Bytes :=
    if length < 128 then [UInt8.ofNat length]
    else
      let digits := Bytes.ofNatMinimal length
      UInt8.ofNat (128 + digits.length) :: digits
  identifier ++ size
where
  /-- The digits of a number in base 128, every one but the last with its top bit set. -/
  base128 (n : Nat) : Bytes :=
    let digits := ((List.range 5).map fun i => n / Nat.pow 128 (4 - i) % 128).dropWhile (· = 0)
    digits.zipIdx.map fun (d, i) => UInt8.ofNat (if i + 1 = digits.length then d else d + 128)

/-- An element of definite length around contents. -/
def write (tag : Tag) (constructed : Bool) (contents : Bytes) : Bytes :=
  writeHeader tag constructed contents.length ++ contents

/-- A primitive element of the universal class. -/
def writePrimitive (number : Nat) (contents : Bytes) : Bytes :=
  write ⟨.universal, number⟩ false contents

/-- A sequence of elements that are written already. -/
def writeSequence (parts : List Bytes) : Bytes :=
  write ⟨.universal, 16⟩ true parts.flatten

end PeerTrust.Asn1
