import PeerTrust.X509.Certificate
import PeerTrust.X509.GeneralName
import PeerTrust.X509.SubjectKey

/-!
# What extensions state

The extensions that bear on whether a certificate is trusted. An extension states something when it
occurs once and can be read; what follows its value inside the octets does not matter. Repeated and
unreadable extensions are kept apart from absent ones, since such a certificate issues nothing.
-/

namespace PeerTrust.X509

open PeerTrust.Asn1

/-- What a certificate states by an extension. -/
inductive Statement (α : Type) where
  | absent
  /-- The extension is repeated or cannot be read. -/
  | unusable
  | stated (value : α)
  deriving DecidableEq, Repr

namespace Statement

/-- The value, if there is one. -/
def value? {α : Type} : Statement α → Option α
  | stated a => some a
  | _ => none

/-- Whether the extension is there but says nothing. -/
def isUnusable {α : Type} : Statement α → Bool
  | unusable => true
  | _ => false

end Statement

/-- The types of extension that are read. -/
def oidSubjectKeyId : ObjectId := ObjectId.dotted "2.5.29.14"
def oidKeyUsage : ObjectId := ObjectId.dotted "2.5.29.15"
def oidSubjectAltName : ObjectId := ObjectId.dotted "2.5.29.17"
def oidIssuerAltName : ObjectId := ObjectId.dotted "2.5.29.18"
def oidBasicConstraints : ObjectId := ObjectId.dotted "2.5.29.19"
def oidNameConstraints : ObjectId := ObjectId.dotted "2.5.29.30"
def oidDistributionPoints : ObjectId := ObjectId.dotted "2.5.29.31"
def oidAuthorityKeyId : ObjectId := ObjectId.dotted "2.5.29.35"
def oidExtendedKeyUsage : ObjectId := ObjectId.dotted "2.5.29.37"
def oidProxy : ObjectId := ObjectId.dotted "1.3.6.1.5.5.7.1.14"
def oidLegacyType : ObjectId := ObjectId.dotted "2.16.840.1.113730.1.1"

/-- The types of extension that may be critical. -/
def understood : List ObjectId :=
  [oidLegacyType, oidKeyUsage, oidSubjectAltName, oidBasicConstraints, oidDistributionPoints,
   oidExtendedKeyUsage, oidProxy, oidNameConstraints] ++
  ["2.5.29.32", "2.5.29.33", "2.5.29.36", "2.5.29.54", "1.3.6.1.5.5.7.1.7", "1.3.6.1.5.5.7.1.8",
   "1.3.6.1.5.5.7.48.1.5"].map ObjectId.dotted

/-- The reading of the element at the start of an octet string. -/
def readValue? {α : Type} (read : Element → Option α) (octets : Bytes) : Option α := do
  let (e, _) ← Element.read octets
  read e

/-- What extensions of a type state, given how their value is read. -/
def statementOf {α : Type} (oid : ObjectId) (read : Element → Option α)
    (extensions : List Extension) : Statement α :=
  match extensions.filter (·.oid == oid) with
  | [] => .absent
  | [x] =>
    match readValue? read x.value with
    | some a => .stated a
    | none => .unusable
  | _ => .unusable

/-- Whether a certificate is one of an authority, and how many more may follow it. -/
structure BasicConstraints where
  authority : Bool
  pathLength : Option Int
  deriving DecidableEq, Repr

/-- Reads basic constraints; one is no authority unless it says so. -/
def BasicConstraints.ofElement? (e : Element) : Option BasicConstraints := do
  let (authority, rest) := takeUniversal tagBoolean (← e.sequence?)
  let (pathLength, rest) := takeUniversal tagInteger rest
  if rest.isEmpty then
    let flag ← optional? Element.boolean? authority
    let length ← optional? Element.integer? pathLength
    return ⟨flag.getD false, length⟩
  else none

/-- The bits of an octet string, eight an octet, of which the first octet matters most. -/
def firstBits (s : BitString) : Nat :=
  (s.octets.headD 0).toNat

/-- Reads the purposes of a key. -/
def purposes? (e : Element) : Option (List ObjectId) := do
  (← e.sequenceOf?).mapM Element.object?

/-- What identifies the key of an issuer. -/
structure AuthorityKeyId where
  keyId : Option Bytes
  issuer : Option (List GeneralName)
  serial : Option Int
  deriving DecidableEq, Repr

/-- Reads what identifies the key of an issuer. -/
def AuthorityKeyId.ofElement? (e : Element) : Option AuthorityKeyId := do
  let (keyId, rest) := takeContextual 0 (← e.sequence?)
  let (issuer, rest) := takeContextual 1 rest
  let (serial, rest) := takeContextual 2 rest
  if rest.isEmpty then
    let keyId ← optional? Element.stringContents? keyId
    let issuer ← optional? GeneralName.taggedList? issuer
    let serial ← optional? (fun s => s.integerContents?.map integerValue) serial
    return ⟨keyId, issuer, serial⟩
  else none

/-- A part of the space of names. -/
structure Subtree where
  base : GeneralName
  /-- Whether bounds other than the usual ones are set. -/
  bounded : Bool
  deriving DecidableEq, Repr

/-- Reads a part of the space of names. -/
def Subtree.ofElement? (e : Element) : Option Subtree := do
  match ← e.sequence? with
  | base :: rest =>
    let (minimum, rest) := takeContextual 0 rest
    let (maximum, rest) := takeContextual 1 rest
    if rest.isEmpty then
      let base ← GeneralName.ofElement? base
      let minimum ← optional? Element.integerContents? minimum
      let maximum ← optional? Element.integerContents? maximum
      let bounded := maximum.isSome || ((minimum.map integerValue).getD 0 != 0)
      return ⟨base, bounded⟩
    else none
  | [] => none

/-- The parts of the space of names that an authority may certify, and those that it may not. -/
structure NameConstraints where
  permitted : List Subtree
  excluded : List Subtree
  deriving DecidableEq, Repr

/-- Reads a list of parts under a tag of its own. -/
def subtrees? (e : Element) : Option (List Subtree) := do
  (← e.items).mapM Subtree.ofElement?

/-- Reads name constraints. -/
def NameConstraints.ofElement? (e : Element) : Option NameConstraints := do
  let (permitted, rest) := takeContextual 0 (← e.sequence?)
  let (excluded, rest) := takeContextual 1 rest
  if rest.isEmpty then
    let permitted ← optional? subtrees? permitted
    let excluded ← optional? subtrees? excluded
    return ⟨permitted.getD [], excluded.getD []⟩
  else none

/-- Whether an element is the name of a point of distribution. -/
def isPointName (e : Element) : Bool :=
  match e.explicit? with
  | some inner =>
    if inner.isContextual 0 then (GeneralName.taggedList? inner).isSome
    else if inner.isContextual 1 then
      (inner.items.bind fun l => l.mapM Attribute.ofElement?).isSome
    else false
  | none => false

/-- Reads a point of distribution: whether it says where or by whom. -/
def distributionPoint? (e : Element) : Option Bool := do
  let (name, rest) := takeContextual 0 (← e.sequence?)
  let (reasons, rest) := takeContextual 1 rest
  let (issuer, rest) := takeContextual 2 rest
  if rest.isEmpty ∧ (name.map isPointName).getD true then
    let _ ← optional? Element.bitStringContents? reasons
    let names ← optional? GeneralName.taggedList? issuer
    return name.isSome || !(names.getD []).isEmpty
  else none

/-- Reads points of distribution, each of which must say where or by whom. -/
def distributionPoints? (e : Element) : Option Unit := do
  let points ← (← e.sequenceOf?).mapM distributionPoint?
  if points.all id then some () else none

/-- Reads the marks of a proxy. -/
def proxy? (e : Element) : Option Unit := do
  let (pathLength, rest) := takeUniversal tagInteger (← e.sequence?)
  let _ ← optional? Element.integer? pathLength
  match rest with
  | [policy] =>
    match ← policy.sequence? with
    | [language] => language.object?.map fun _ => ()
    | [language, text] => do
      let _ ← language.object?
      text.octetString?.map fun _ => ()
    | _ => none
  | _ => none

namespace Certificate

/-- What the certificate states by extensions of a type. -/
def states {α : Type} (c : Certificate) (oid : ObjectId) (read : Element → Option α) :
    Statement α :=
  statementOf oid read c.body.extensions

/-- Whether the certificate has an extension of a type. -/
def hasExtension (c : Certificate) (oid : ObjectId) : Bool :=
  c.body.extensions.any (·.oid == oid)

/-- The basic constraints. -/
def basicConstraints (c : Certificate) : Statement BasicConstraints :=
  c.states oidBasicConstraints BasicConstraints.ofElement?

/-- What the key may be used for. -/
def keyUsage (c : Certificate) : Statement BitString :=
  c.states oidKeyUsage Element.bitString?

/-- The purposes that the key is for. -/
def extendedKeyUsage (c : Certificate) : Statement (List ObjectId) :=
  c.states oidExtendedKeyUsage purposes?

/-- The legacy type of the certificate. -/
def legacyType (c : Certificate) : Statement BitString :=
  c.states oidLegacyType Element.bitString?

/-- The identifier of the certificate's own key. -/
def subjectKeyId (c : Certificate) : Statement Bytes :=
  c.states oidSubjectKeyId Element.octetString?

/-- What identifies the key of the issuer. -/
def authorityKeyId (c : Certificate) : Statement AuthorityKeyId :=
  c.states oidAuthorityKeyId AuthorityKeyId.ofElement?

/-- The names that the certificate binds beside its subject. -/
def altNames (c : Certificate) : Statement (List GeneralName) :=
  c.states oidSubjectAltName GeneralName.list?

/-- The name constraints. -/
def nameConstraints (c : Certificate) : Statement NameConstraints :=
  c.states oidNameConstraints NameConstraints.ofElement?

/-- The points of distribution. -/
def distributionPoints (c : Certificate) : Statement Unit :=
  c.states oidDistributionPoints distributionPoints?

/-- The marks of a proxy. -/
def proxy (c : Certificate) : Statement Unit :=
  c.states oidProxy proxy?

/-- Whether the certificate is marked as one of an authority. -/
def isMarkedAuthority (c : Certificate) : Bool :=
  (c.basicConstraints.value?.map (·.authority)).getD false

/-- How many more authorities may follow the certificate, if it says so. -/
def pathLength? (c : Certificate) : Option Int :=
  (c.basicConstraints.value?.bind (·.pathLength)).filter fun n => 0 ≤ n ∧ n < 0x8000000000000000

/-- Whether a length that is stated is negative. -/
def hasNegativePathLength (c : Certificate) : Bool :=
  match c.basicConstraints.value?.bind (·.pathLength) with
  | some n => n < 0
  | none => false

/-- Whether the key may be used for nothing. -/
def hasEmptyKeyUsage (c : Certificate) : Bool :=
  match c.keyUsage.value? with
  | some usage => (usage.octets.take 2).all (· == 0)
  | none => false

/-- Whether a proxy carries what it must not. -/
def isImproperProxy (c : Certificate) : Bool :=
  c.proxy.value?.isSome &&
    (c.isMarkedAuthority || c.hasExtension oidSubjectAltName || c.hasExtension oidIssuerAltName)

/-- Whether every extension that is read can be read and says something sensible. -/
def isSound (c : Certificate) : Bool :=
  !(c.basicConstraints.isUnusable || c.hasNegativePathLength || c.proxy.isUnusable
    || c.isImproperProxy || c.keyUsage.isUnusable || c.hasEmptyKeyUsage
    || c.extendedKeyUsage.isUnusable || c.legacyType.isUnusable || c.subjectKeyId.isUnusable
    || c.authorityKeyId.isUnusable || c.altNames.isUnusable || c.nameConstraints.isUnusable
    || c.distributionPoints.isUnusable)

/-- Whether a critical extension is of a type that is not understood. -/
def hasUnknownCritical (c : Certificate) : Bool :=
  c.body.extensions.any fun x => x.critical && !understood.contains x.oid

/-- Whether subject and issuer are the same. -/
def isSelfIssued (c : Certificate) : Bool :=
  c.body.subject.same c.body.issuer

/-- The key of the certificate. -/
def key? (c : Certificate) : Option SubjectKey :=
  SubjectKey.ofInfo? c.body.keyInfo

end Certificate

end PeerTrust.X509
