import PeerTrust.Bytes

/-!
# UTF-8

Writing is the standard's; reading goes octet by octet with the state of the unfinished
character, so that an ill-formed stretch is reported as its maximal beginning. A strict reader
refuses any such stretch, a lenient one shows each as U+FFFD.
-/

namespace PeerTrust.Utf8

/-- The octets of a text. -/
def encode (text : List Char) : Bytes :=
  text.flatMap String.utf8EncodeChar

/-- The octets of a string. -/
def encodeString (text : String) : Bytes :=
  encode text.toList

/-- A character of which only a beginning has been read. -/
structure Unfinished where
  /-- The bits read so far. -/
  value : Nat
  /-- How many continuation octets are still to come. -/
  missing : Nat
  /-- The least continuation octet allowed next. -/
  low : UInt8
  /-- The greatest continuation octet allowed next. -/
  high : UInt8

/-- What an octet can do at the start of a character. -/
inductive Lead where
  /-- It is a character by itself. -/
  | whole (c : Char)
  /-- It begins a longer character. -/
  | begins (u : Unfinished)
  /-- It begins no character. -/
  | never

/-- The role of an octet at the start of a character. Overlong forms, surrogates and values above
U+10FFFF are excluded by the bounds on the second octet. -/
def lead (b : UInt8) : Lead :=
  if b < 0x80 then .whole (Char.ofNat b.toNat)
  else if b < 0xC2 then .never
  else if b < 0xE0 then .begins ⟨b.toNat - 0xC0, 1, 0x80, 0xBF⟩
  else if b < 0xF0 then
    .begins ⟨b.toNat - 0xE0, 2, if b = 0xE0 then 0xA0 else 0x80, if b = 0xED then 0x9F else 0xBF⟩
  else if b < 0xF5 then
    .begins ⟨b.toNat - 0xF0, 3, if b = 0xF0 then 0x90 else 0x80, if b = 0xF4 then 0x8F else 0xBF⟩
  else .never

/-- The characters of an octet string in order; `none` stands for an ill-formed stretch. -/
def units : Option Unfinished → Bytes → List (Option Char)
  | none, [] => []
  | some _, [] => [none]
  | none, b :: rest =>
    match lead b with
    | .whole c => some c :: units none rest
    | .begins u => units (some u) rest
    | .never => none :: units none rest
  | some u, b :: rest =>
    if u.low ≤ b ∧ b ≤ u.high then
      let value := u.value * 64 + (b.toNat - 0x80)
      if u.missing ≤ 1 then some (Char.ofNat value) :: units none rest
      else units (some ⟨value, u.missing - 1, 0x80, 0xBF⟩) rest
    else
      none ::
        match lead b with
        | .whole c => some c :: units none rest
        | .begins u => units (some u) rest
        | .never => none :: units none rest

/-- The text that the octets spell, if they are well formed throughout. -/
def decode? (bs : Bytes) : Option (List Char) :=
  (units none bs).mapM id

/-- The text that the octets spell, with U+FFFD for each ill-formed stretch. -/
def decodeLossy (bs : Bytes) : List Char :=
  (units none bs).map (·.getD '\uFFFD')

/-- How many octets a text takes. -/
def size : (text : List Char) → Nat
  | [] => 0
  | c :: rest => c.utf8Size + size rest

end PeerTrust.Utf8
