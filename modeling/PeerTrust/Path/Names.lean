import PeerTrust.Path.Issuance
import PeerTrust.Text.Punycode

/-!
# Name constraints

An authority may be confined to parts of the space of names. Every name of a certificate below it
must then lie in a permitted part of its own form, where there is one, and in no excluded part. The
names of a certificate are its subject, the e-mail addresses in it, and its alternative names; a
leaf without a host name among these also answers for the common names that look like one.
-/

namespace PeerTrust.Path

open PeerTrust.Asn1 PeerTrust.X509

/-- Whether two octet strings are equal but for the case of ASCII letters. -/
def sameCaseless (a b : Bytes) : Bool :=
  a.map lowerOctet == b.map lowerOctet

/-- The last octets of a string. -/
def lastOctets (count : Nat) (bs : Bytes) : Bytes :=
  bs.drop (bs.length - count)

/-- Whether an octet string ends in another and is longer, but for the case of ASCII letters. -/
def endsBelow (text ending : Bytes) : Bool :=
  ending.length < text.length && sameCaseless (lastOctets ending.length text) ending

/-- The octets in front of the last occurrence of an octet, and those after it. -/
def splitLast? (mark : UInt8) (bs : Bytes) : Option (Bytes × Bytes) :=
  let after := (bs.reverse.takeWhile (· != mark)).reverse
  if after.length < bs.length then some (bs.take (bs.length - after.length - 1), after) else none

/-- Whether a directory name lies under a base: it begins with all of it. -/
def directoryInside (name base : Name) : Bool :=
  base.canonical.isPrefixOf name.canonical

/-- Whether a host name lies under a base: it ends in whole labels of it. An empty base holds
everything. -/
def dnsInside (name base : Bytes) : Bool :=
  if base.isEmpty then true
  else if name.length < base.length then false
  else
    let before := name.take (name.length - base.length)
    let atLabel := before.isEmpty || base.head? == some 0x2E || before.getLast? == some 0x2E
    atLabel && sameCaseless (lastOctets base.length name) base

/-- Whether an e-mail address lies under a base: a host, a domain that begins with a dot, or one
address, of which the part before the host is compared exactly. -/
def emailInside (name base : Bytes) : Except Cause Bool :=
  match splitLast? 0x40 name with
  | none => .error .nameText
  | some (user, host) =>
    match splitLast? 0x40 base with
    | none =>
      .ok (if base.head? == some 0x2E then endsBelow name base else sameCaseless host base)
    | some (baseUser, baseHost) =>
      if baseUser.isEmpty then .ok (sameCaseless host baseHost)
      else if baseUser.length ≠ user.length then .ok false
      else if baseUser.contains 0 || user.contains 0 then .error .nameText
      else .ok (baseUser == user && sameCaseless host baseHost)

/-- The host of a resource identifier: what stands between two slashes and a port or a path. -/
def uriHost? (uri : Bytes) : Option Bytes :=
  match uri.dropWhile (· != 0x3A) with
  | _ :: 0x2F :: 0x2F :: rest =>
    let host := rest.takeWhile (· != (if rest.contains 0x3A then 0x3A else 0x2F))
    if host.isEmpty then none else some host
  | _ => none

/-- Whether a resource identifier lies under a base: a host, or a domain that begins with a dot. -/
def uriInside (uri base : Bytes) : Except Cause Bool :=
  match uriHost? uri with
  | none => .error .nameText
  | some host =>
    .ok (if base.head? == some 0x2E then endsBelow host base else sameCaseless host base)

/-- The octets of an address that a mask leaves. -/
def underMask (octets mask : Bytes) : Bytes :=
  (octets.zip mask).map fun (a, b) => a &&& b

/-- Whether an address lies under a base: an address and a mask of the same size. -/
def addressInside (octets base : Bytes) : Except Cause Bool :=
  if (octets.length = 4 ∨ octets.length = 16) ∧ (base.length = 8 ∨ base.length = 32) then
    let mask := base.drop octets.length
    .ok (octets.length * 2 == base.length && underMask octets mask == underMask base mask)
  else .error .nameText

/-- One label of a host name with its encoding, if it has one, taken off. -/
def plainLabel? (label : Bytes) : Option Bytes :=
  match label with
  | 0x78 :: 0x6E :: 0x2D :: 0x2D :: rest =>
    (Punycode.decode (rest.map fun b => Char.ofNat b.toNat)).map Utf8.encode
  | _ => some label

/-- The pieces of an octet string between dots. -/
def labels : Bytes → List Bytes
  | [] => [[]]
  | b :: rest =>
    match labels rest with
    | l :: more => if b == 0x2E then [] :: l :: more else (b :: l) :: more
    | [] => []

/-- A host name with the encoding of its labels taken off. -/
def plainHost? (host : Bytes) : Option Bytes :=
  ((labels host).mapM plainLabel?).map fun l => (List.intersperse [0x2E] l).flatten

/-- The form of e-mail addresses beyond ASCII. -/
def oidMailbox : ObjectId := ObjectId.dotted "1.3.6.1.5.5.7.8.9"

/-- Whether an e-mail address beyond ASCII lies under a base. -/
def mailboxInside (value : AnyValue) (base : Bytes) : Except Cause Bool :=
  if base.contains 0 then .error .nameText
  else match value with
  | .universal number text =>
    if number ≠ tagUtf8 then .error .nameText
    else match splitLast? 0x40 text, plainHost? base with
      | none, _ => .error .nameText
      | some _, none => .error .unspecified
      | some (_, host), some plain =>
        .ok (if base.head? == some 0x2E then endsBelow text (0x2E :: plain)
          else sameCaseless host plain)
  | .verbatim _ => .error .nameText

/-- Whether a part of the space of names is of the form of a name. -/
def sameForm : GeneralName → GeneralName → Bool
  | .other form _, base =>
    if form == oidMailbox then
      match base with
      | .email _ => true
      | _ => false
    else
      match base with
      | .other other _ => form == other
      | _ => false
  | .email _, .email _ => true
  | .dns _, .dns _ => true
  | .x400, .x400 => true
  | .directory _, .directory _ => true
  | .ediParty, .ediParty => true
  | .uri _, .uri _ => true
  | .address _, .address _ => true
  | .registered _, .registered _ => true
  | _, _ => false

/-- Whether a name lies under a base of its own form. -/
def inside : GeneralName → GeneralName → Except Cause Bool
  | .other _ value, .email base => mailboxInside value base
  | .directory name, .directory base => .ok (directoryInside name base)
  | .dns name, .dns base => .ok (dnsInside name base)
  | .email name, .email base => emailInside name base
  | .uri name, .uri base => uriInside name base
  | .address octets, .address base => addressInside octets base
  | _, _ => .error .constraintForm

/-- Whether a name lies in one of the permitted parts of its own form, where there is one. -/
def checkPermitted (name : GeneralName) : (seen matched : Bool) → List Subtree → Except Cause Unit
  | seen, matched, [] => if seen && !matched then .error .outsidePermitted else .ok ()
  | seen, matched, s :: rest =>
    if !sameForm name s.base then checkPermitted name seen matched rest
    else if s.bounded then .error .subtreeBounded
    else if matched then checkPermitted name true true rest
    else match inside name s.base with
      | .ok b => checkPermitted name true b rest
      | .error cause => .error cause

/-- Whether a name lies in none of the excluded parts. -/
def checkExcluded (name : GeneralName) : List Subtree → Except Cause Unit
  | [] => .ok ()
  | s :: rest =>
    if !sameForm name s.base then checkExcluded name rest
    else if s.bounded then .error .subtreeBounded
    else match inside name s.base with
      | .ok true => .error .insideExcluded
      | .ok false => checkExcluded name rest
      | .error cause => .error cause

/-- Whether a name obeys constraints. -/
def checkName (nc : NameConstraints) (name : GeneralName) : Except Cause Unit :=
  (checkPermitted name false false nc.permitted).bind fun _ => checkExcluded name nc.excluded

/-- The e-mail addresses in a subject, which must be plain ASCII texts. -/
def subjectEmail (a : Attribute) : Except Cause GeneralName :=
  if a.tag = tagIa5 then .ok (.email a.value) else .error .nameText

/-- Whether the names of a subject obey constraints. -/
def checkSubject (nc : NameConstraints) (subject : Name) : Except Cause Unit :=
  if subject.isEmpty then .ok ()
  else do
    checkName nc (.directory subject)
    (subject.attributes.filter (·.oid == oidEmailAddress)).forM fun a => do
      checkName nc (← subjectEmail a)

/-- The most comparisons that are made. -/
def comparisonLimit : Nat := 0x100000

/-- Whether the names of a certificate obey constraints. -/
def checkCertificateNames (nc : NameConstraints) (c : Certificate) : Except Cause Unit := do
  let altNames := c.altNames.value?.getD []
  let names := c.body.subject.attributes.length + altNames.length
  let parts := nc.permitted.length + nc.excluded.length
  if 0 < names ∧ comparisonLimit / names < parts then .error .unspecified
  checkSubject nc c.body.subject
  altNames.forM (checkName nc)

/-- Whether a text reads as a host name of several labels. Hyphens and dots stand inside only, and
no hyphen or other dot stands beside a dot. -/
def isHostName (text : Bytes) : Bool :=
  go none text false
where
  /-- `before` is the octet in front; `dotted` says whether a dot has been seen. -/
  go (before : Option UInt8) : Bytes → (dotted : Bool) → Bool
    | [], dotted => dotted
    | b :: rest, dotted =>
      if isLetterOrDigit b then go (some b) rest dotted
      else match before, rest with
        | some a, next :: _ =>
          if b == 0x2D then go (some b) rest dotted
          else b == 0x2E && next != 0x2E && a != 0x2D && next != 0x2D && go (some b) rest true
        | _, _ => false
  /-- A letter, a digit or an underscore. -/
  isLetterOrDigit (b : UInt8) : Bool :=
    (0x61 ≤ b && b ≤ 0x7A) || (0x41 ≤ b && b ≤ 0x5A) || (0x30 ≤ b && b ≤ 0x39) || b == 0x5F

/-- A text without the NULs at its end. -/
def dropFinalNuls (text : Bytes) : Bytes :=
  (text.reverse.dropWhile (· == 0)).reverse

/-- The host name in a common name, if it reads as one. -/
def hostInCommonName (a : Attribute) : Except Fault (Option Bytes) :=
  match textOf? a.tag a.value with
  | some (some text) =>
    let text := dropFinalNuls text
    if text.contains 0 then .error (.stopped .nameText 0)
    else .ok (if isHostName text then some text else none)
  | _ => .error .textless

/-- Whether the common names of a subject that read as host names obey constraints. -/
def checkCommonNames (nc : NameConstraints) (subject : Name) : Except Fault Unit :=
  (subject.attributes.filter (·.oid == oidCommonName)).forM fun a => do
    match ← hostInCommonName a with
    | some host => (checkName nc (.dns host)).mapError (.stopped · 0)
    | none => .ok ()

/-- Whether a certificate binds a host name by its alternative names. -/
def bindsHostName (c : Certificate) : Bool :=
  (c.altNames.value?.getD []).any fun
    | .dns _ => true
    | _ => false

/-- Whether a certificate so many steps from the leaf obeys constraints from above. -/
def checkConstrained (depth : Nat) (c : Certificate) (nc : NameConstraints) :
    Except Fault Unit := do
  (checkCertificateNames nc c).mapError (.stopped · depth)
  if depth = 0 ∧ ¬bindsHostName c then checkCommonNames nc c.body.subject

/-- Whether every certificate of a path, top first, obeys the constraints of all those above it.
One that is issued to its issuer itself answers for its names only as a leaf. -/
def checkNames : (above path : List Certificate) → Except Fault Unit
  | _, [] => .ok ()
  | above, c :: rest => do
    if rest.isEmpty || !c.isSelfIssued then
      (above.filterMap (·.nameConstraints.value?)).forM (checkConstrained rest.length c)
    checkNames (above ++ [c]) rest

end PeerTrust.Path
