import PeerTrust.X509.Algorithm
import PeerTrust.X509.Moment
import PeerTrust.X509.Name

/-!
# Certificates

The structure of an X.509 certificate: the part that is signed, the algorithm and the signature.
The signed part keeps its octets, so a certificate that is written again carries the very octets
that were signed; everything around them is written in distinguished form.
-/

namespace PeerTrust.X509

open PeerTrust.Asn1

/-- An extension of a certificate. -/
structure Extension where
  oid : ObjectId
  critical : Bool
  value : Bytes
  deriving DecidableEq, Repr

/-- Reads an extension; one that does not say so is not critical. -/
def Extension.ofElement? (e : Element) : Option Extension :=
  match e.sequence? with
  | some [type, value] => do
    let oid ← type.object?
    let octets ← value.octetString?
    return ⟨oid, false, octets⟩
  | some [type, critical, value] => do
    let oid ← type.object?
    let flag ← critical.boolean?
    let octets ← value.octetString?
    return ⟨oid, flag, octets⟩
  | _ => none

/-- The subject's public key as a certificate carries it: an algorithm and a bit string. -/
structure KeyInfo where
  algorithm : Algorithm
  bits : BitString
  deriving DecidableEq, Repr

/-- Reads a SubjectPublicKeyInfo. -/
def KeyInfo.ofElement? (e : Element) : Option KeyInfo :=
  match e.sequence? with
  | some [algorithm, bits] => do
    let a ← Algorithm.ofElement? algorithm
    let b ← bits.bitString?
    return ⟨a, b⟩
  | _ => none

/-- The signed part of a certificate. -/
structure Body where
  /-- All octets of the signed part. -/
  raw : Bytes
  /-- The version field; zero when it is absent. -/
  version : Int
  serial : Int
  algorithm : Algorithm
  issuer : Name
  notBefore : TimeText
  notAfter : TimeText
  subject : Name
  keyInfo : KeyInfo
  extensions : List Extension
  deriving DecidableEq, Repr

/-- The two times of a validity. -/
def validity? (e : Element) : Option (TimeText × TimeText) :=
  match e.sequence? with
  | some [a, b] => do
    let notBefore ← TimeText.ofElement? a
    let notAfter ← TimeText.ofElement? b
    return (notBefore, notAfter)
  | _ => none

/-- The version field, which may be absent. -/
def version? : Option Element → Option Int
  | none => some 0
  | some e => e.explicit?.bind Element.integer?

/-- A unique identifier, which may be absent and is not kept. -/
def uniqueId? : Option Element → Option Unit
  | none => some ()
  | some e => e.bitStringContents?.map fun _ => ()

/-- The extensions, which may be absent. -/
def extensions? : Option Element → Option (List Extension)
  | none => some []
  | some e => do
    let list ← e.explicit?
    (← list.sequenceOf?).mapM Extension.ofElement?

/-- Reads the signed part of a certificate. -/
def Body.ofElement? (e : Element) : Option Body := do
  let (version, rest) := takeContextual 0 (← e.sequence?)
  match rest with
  | serial :: algorithm :: issuer :: validity :: subject :: key :: rest =>
    let (issuerId, rest) := takeContextual 1 rest
    let (subjectId, rest) := takeContextual 2 rest
    let (extensions, rest) := takeContextual 3 rest
    if rest.isEmpty then
      let version ← version? version
      let serial ← serial.integer?
      let algorithm ← Algorithm.ofElement? algorithm
      let issuer ← Name.ofElement? issuer
      let (notBefore, notAfter) ← validity? validity
      let subject ← Name.ofElement? subject
      let keyInfo ← KeyInfo.ofElement? key
      uniqueId? issuerId
      uniqueId? subjectId
      let extensions ← extensions? extensions
      return ⟨e.raw, version, serial, algorithm, issuer, notBefore, notAfter, subject, keyInfo,
        extensions⟩
    else none
  | _ => none

/-- A certificate: the signed part, the algorithm of the signature and the signature. -/
structure Certificate where
  body : Body
  algorithm : Algorithm
  signature : BitString
  deriving DecidableEq, Repr

namespace Certificate

/-- Reads a certificate from its element. -/
def ofElement? (e : Element) : Option Certificate :=
  match e.sequence? with
  | some [body, algorithm, signature] => do
    let b ← Body.ofElement? body
    let a ← Algorithm.ofElement? algorithm
    let s ← signature.bitString?
    return ⟨b, a, s⟩
  | _ => none

/-- Reads the certificate at the start of an octet string; what follows it does not matter. -/
def ofDer? (der : Bytes) : Option Certificate := do
  let (e, _) ← Element.read der
  ofElement? e

/-- Writes a certificate. -/
def write (c : Certificate) : Bytes :=
  writeSequence [c.body.raw, c.algorithm.write, c.signature.write]

/-- The serial number in hexadecimal, two digits an octet, with a sign if it is negative. -/
def serialText (c : Certificate) : String :=
  let n := c.body.serial
  let digits := Hex.encodeUpper (Bytes.ofNatMinimal n.natAbs)
  if n = 0 then "0" else if n < 0 then "-" ++ digits else digits

end Certificate

end PeerTrust.X509
