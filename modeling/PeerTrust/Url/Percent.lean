import PeerTrust.Text.Hex

/-!
# Escaped octets

A percent sign and two hexadecimal digits stand for an octet.
-/

namespace PeerTrust.Url

/-- The octet of a percent sign and two digits that a text begins with. -/
def escaped? : List Char → Option UInt8
  | '%' :: hi :: lo :: _ => do
    let h ← Hex.value? hi
    let l ← Hex.value? lo
    return UInt8.ofNat (16 * h + l)
  | _ => none

/-- The octets that a text stands for; `skip` counts the characters that belong to an escape already
read. A percent sign without two digits stands for itself. -/
def unescapeFrom : (skip : Nat) → List Char → Bytes
  | _, [] => []
  | skip + 1, _ :: rest => unescapeFrom skip rest
  | 0, c :: rest =>
    match escaped? (c :: rest) with
    | some b => b :: unescapeFrom 2 rest
    | none => Utf8.encode [c] ++ unescapeFrom 0 rest

/-- The octets that a text stands for. -/
def unescape (text : List Char) : Bytes :=
  unescapeFrom 0 text

end PeerTrust.Url
