import PeerTrust.Path.Names
import PeerTrust.Path.Search

/-!
# Validation of a path

A path that was found is checked three times over: for what the extensions of each certificate say,
from the leaf up; for signatures and times, from the top down; and for names. The first fault ends
validation.
-/

namespace PeerTrust.Path

open PeerTrust.Asn1 PeerTrust.X509

/-- On what ground a certificate counts as one of an authority. -/
inductive Authority where
  | marked
  /-- A self-signed certificate of the first version. -/
  | ancientRoot
  /-- A certificate whose key may sign certificates. -/
  | byKeyUsage
  /-- A certificate whose legacy type is that of an authority. -/
  | byLegacyType
  deriving DecidableEq, Repr

/-- Whether the legacy type of a certificate has one of the given bits. -/
def hasLegacyType (c : Certificate) (bits : Nat) : Bool :=
  match c.legacyType.value? with
  | some type => firstBits type &&& bits != 0
  | none => false

/-- The bits of legacy types. -/
def legacyServer : Nat := 0x40
def legacyServerAuthority : Nat := 0x04
def legacyAuthorities : Nat := 0x07

/-- The ground on which a certificate counts as one of an authority, if there is one. Basic
constraints decide where they are stated. -/
def authority? (c : Certificate) : Option Authority :=
  if !c.isSound || !usable c signCertificates then none
  else match c.basicConstraints.value? with
  | some b => if b.authority then some .marked else none
  | none =>
    if c.body.version = 0 ∧ isSelfSigned c then some .ancientRoot
    else if c.keyUsage.value?.isSome then some .byKeyUsage
    else if hasLegacyType c legacyAuthorities then some .byLegacyType
    else none

/-- The purposes of a server. -/
def serverPurposes : List ObjectId :=
  ["1.3.6.1.5.5.7.3.1", "1.3.6.1.4.1.311.10.3.3", "2.16.840.1.113730.4.1"].map ObjectId.dotted

/-- Whether the purposes of a key, where they are limited, include that of a server. -/
def allowsServer (c : Certificate) : Bool :=
  match c.extendedKeyUsage.value? with
  | some purposes => serverPurposes.any purposes.contains
  | none => true

/-- Whether an authority may stand above the certificate of a server. -/
def suitsAbove (c : Certificate) : Bool :=
  match authority? c with
  | none => false
  | some .byLegacyType => hasLegacyType c legacyServerAuthority
  | some _ => true

/-- Whether a certificate may be that of a server. -/
def suitsServer (c : Certificate) : Bool :=
  (c.legacyType.value?.isNone || hasLegacyType c legacyServer)
    && usable c (signDigests ||| encipherKeys ||| agreeOnKeys)

/-- Whether a certificate so many steps from a server's suits the purpose. A certificate whose
extensions are not sound is not held to it. -/
def suits (depth : Nat) (c : Certificate) : Bool :=
  !c.isSound || (allowsServer c && if depth = 0 then suitsServer c else suitsAbove c)

/-- Whether the key of a certificate has a curve with parameters that are spelled out. -/
def hasSpelledCurve (c : Certificate) : Bool :=
  match c.key? with
  | some (.curvePoint curve _) => curve.isSpelled
  | _ => false

/-- Whether a certificate may stand above others: the one on top on any ground, those between only
when they are marked. -/
def mayStandAbove (isTop : Bool) (c : Certificate) : Bool :=
  match authority? c with
  | none => false
  | some ground => isTop || ground == .marked

/-- Whether more authorities lie below a certificate than it allows. -/
def exceedsLength (authorities : Nat) (c : Certificate) : Bool :=
  match c.pathLength? with
  | some n => n < authorities
  | none => false

/-- What is wrong with the extensions of a certificate so many steps from the leaf, with so many
certificates below it that count. -/
def extensionFault? (length depth counted : Nat) (c : Certificate) : Option Cause :=
  if c.hasUnknownCritical then some .unknownCritical
  else if c.proxy.value?.isSome then some .proxyRefused
  else if 0 < depth ∧ ¬mayStandAbove (depth + 1 == length) c then some .invalidAuthority
  else if 1 < length ∧ hasSpelledCurve c then some .spelledCurve
  else if ¬suits depth c then some .unsuitablePurpose
  else if 1 < depth ∧ exceedsLength counted c then some .pathTooLong
  else none

/-- Checks extensions from the leaf up. Every certificate between leaf and top that another issued
counts against the length of the path. -/
def checkExtensions (length : Nat) : (depth counted : Nat) → List Certificate → Except Fault Unit
  | _, _, [] => .ok ()
  | depth, counted, c :: rest =>
    match extensionFault? length depth counted c with
    | some cause => .error (.stopped cause depth)
    | none =>
      checkExtensions length (depth + 1)
        (if 0 < depth ∧ ¬c.isSelfIssued then counted + 1 else counted) rest

/-- What is wrong with a signature or with the times of a certificate. The signature of the one on
top is not looked at. -/
def linkFault? (now : Moment) (issuer : Option Certificate) (c : Certificate) : Option Cause :=
  match issuer with
  | some i => if isSignedBy c i then timeFault? now c else some .signatureFailure
  | none => timeFault? now c

/-- Checks signatures and times of a path, top first. -/
def checkLinks (now : Moment) : (issuer : Option Certificate) → List Certificate → Except Fault Unit
  | _, [] => .ok ()
  | issuer, c :: rest =>
    match linkFault? now issuer c with
    | some cause => .error (.stopped cause rest.length)
    | none => checkLinks now (some c) rest

/-- Checks a path, top first. -/
def check (now : Moment) (path : List Certificate) : Except Fault Unit := do
  checkExtensions path.length 0 0 path.reverse
  checkLinks now none path
  checkNames [] path

/-- Finds and checks a path from a leaf. -/
def validate (src : Sources) (leaf : Certificate) : Except Fault Unit := do
  let path ← src.search leaf
  check src.now path.toList

end PeerTrust.Path
