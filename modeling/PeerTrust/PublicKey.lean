import PeerTrust.Armour
import PeerTrust.Fault
import PeerTrust.X509.SubjectKey

/-!
# Public keys in their one spelling

A public key is compared by the octets of its SubjectPublicKeyInfo, written in one way whatever
spelling it was read from: DER, armoured text, or hexadecimal digits.
-/

namespace PeerTrust

open PeerTrust.Asn1 PeerTrust.X509

/-- A public key: the octets of its SubjectPublicKeyInfo. -/
structure PublicKey where
  der : Bytes
  deriving DecidableEq, Repr

namespace PublicKey

/-- The key at the start of an octet string. -/
def keyOf? (der : Bytes) : Option SubjectKey := do
  let (e, _) ← Element.read der
  SubjectKey.ofInfo? (← KeyInfo.ofElement? e)

/-- A key, found in the given octets, written in the one spelling. -/
def ofKey (octets : Bytes) (key : SubjectKey) : Except CertificateFault PublicKey :=
  match key.encoding? with
  | some der => .ok ⟨der⟩
  | none => .error (.undecodable .writing octets)

/-- Reads a SubjectPublicKeyInfo; what follows it does not matter. -/
def ofDer (der : Bytes) : Except CertificateFault PublicKey :=
  match keyOf? der with
  | some key => ofKey der key
  | none => .error (.invalidKey der)

/-- Reads hexadecimal digits of a SubjectPublicKeyInfo, blanks around them ignored. -/
def ofHex (text : String) : Except CertificateFault PublicKey :=
  match Hex.decode (Text.trim text.toList) with
  | .ok der => ofDer der
  | .error fault => .error (.invalidHexKey fault)

/-- Whether a key is an RSA key. -/
def isRsa : SubjectKey → Bool
  | .rsa .. => true
  | _ => false

/-- Whether a key is a point of a curve. -/
def isCurvePoint : SubjectKey → Bool
  | .curvePoint .. => true
  | _ => false

/-- Whether a key belongs to a group p, q, g. -/
def isDsa : SubjectKey → Bool
  | .dsa .. => true
  | _ => false

/-- Whether a key is for agreement in a group of prime and base. -/
def isAgreement : SubjectKey → Bool
  | .agreement .. => true
  | _ => false

/-- Whether a key is for agreement in a group whose order is stated. -/
def isSubgroupAgreement : SubjectKey → Bool
  | .subgroupAgreement .. => true
  | _ => false

/-- A key of the wanted kind in the octets of a block. -/
def keyOfKind? (wanted : SubjectKey → Bool) (contents : Bytes) : Option SubjectKey :=
  (keyOf? contents).filter wanted

/-- The label of a block that holds a SubjectPublicKeyInfo. -/
def publicLabel : Bytes := Bytes.ofLatin "PUBLIC KEY"

/-- The key in a block, by its label. Labels that name a kind of key take that kind only. -/
def keyOfBlock? (label contents : Bytes) : Option SubjectKey :=
  if label = publicLabel then keyOf? contents
  else if label = Bytes.ofLatin "RSA PUBLIC KEY" ∨ label = Bytes.ofLatin "RSA PRIVATE KEY" then
    match SubjectKey.rsaNumbers? contents with
    | some (n, e) => some (.rsa n e)
    | none => keyOfKind? isRsa contents
  else if label = Bytes.ofLatin "EC PRIVATE KEY" ∨ label = Bytes.ofLatin "EC PARAMETERS" then
    keyOfKind? isCurvePoint contents
  else if label = Bytes.ofLatin "DSA PRIVATE KEY" ∨ label = Bytes.ofLatin "DSA PUBLIC KEY"
      ∨ label = Bytes.ofLatin "DSA PARAMETERS" then
    keyOfKind? isDsa contents
  else if label = Bytes.ofLatin "DH PARAMETERS" then keyOfKind? isAgreement contents
  else if label = Bytes.ofLatin "X9.42 DH PARAMETERS" then keyOfKind? isSubgroupAgreement contents
  else none

/-- The longest header that a block may have; a longer one announces encryption. -/
def headerLimit : Nat := 10

/-- The first key among blocks. Blocks that hold none are skipped, but one with a long header ends
the search. -/
def firstKey? : List (Option ArmourBlock) → Option SubjectKey
  | [] => none
  | none :: rest => firstKey? rest
  | some b :: rest =>
    if b.header.length > headerLimit then none
    else
      match keyOfBlock? b.label b.contents with
      | some key => some key
      | none => firstKey? rest

/-- The key in the first block with the plain label, where every block before must be well
formed. -/
def plainKey? : List (Option ArmourBlock) → Option SubjectKey
  | [] => none
  | none :: _ => none
  | some b :: rest =>
    if b.label = publicLabel then
      if b.header.isEmpty then keyOf? b.contents else none
    else plainKey? rest

/-- Reads the first key of an armoured text. -/
def ofArmour (text : Bytes) : Except CertificateFault PublicKey :=
  let blocks := Armour.blocks text
  match (firstKey? blocks).or (plainKey? blocks) with
  | some key => ofKey text key
  | none => .error (.invalidPemKey text)

/-- The key in upper-case hexadecimal digits. -/
def hex (k : PublicKey) : String :=
  Hex.encodeUpper k.der

/-- The armoured text of a key. -/
def armour (k : PublicKey) : String :=
  String.ofList (Armour.write "PUBLIC KEY" k.der)

/-- A short description: the first digits and the size. -/
def shown (k : PublicKey) : String :=
  "PublicKey(" ++ String.ofList (k.hex.toList.take 16) ++ ".., " ++ toString k.der.length
    ++ " bytes)"

end PublicKey

end PeerTrust
