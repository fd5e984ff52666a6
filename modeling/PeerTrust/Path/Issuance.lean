import PeerTrust.Path.Fault
import PeerTrust.Signature.Scheme
import PeerTrust.X509.Statement

/-!
# Who issued a certificate, and when it is valid

A certificate may be the issuer of another when their names meet, what the other says about its
issuer's key fits, and the key is of the kind that makes such signatures. The signature itself is
checked on the finished path only. Nothing is issued by or to a certificate whose extensions are
not sound.
-/

namespace PeerTrust.Path

open PeerTrust.X509 PeerTrust.Signature

/-- Whether two certificates are the same: they are written alike. -/
def same (a b : Certificate) : Bool :=
  a.write == b.write

/-- Whether two values that may be absent agree where both are there. -/
def agree {α : Type} [BEq α] : Option α → Option α → Bool
  | some a, some b => a == b
  | _, _ => true

/-- The first directory name among names. -/
def firstDirectory? : List GeneralName → Option Name
  | [] => none
  | .directory n :: _ => some n
  | _ :: rest => firstDirectory? rest

/-- Whether the name of the issuer's own issuer fits, where one is stated. -/
def issuerNameFits (issuer : Certificate) (id : AuthorityKeyId) : Bool :=
  match id.issuer.bind firstDirectory? with
  | some n => n.same issuer.body.issuer
  | none => true

/-- Whether what a certificate says about its issuer's key fits. -/
def authorityFits (issuer subject : Certificate) : Bool :=
  match subject.authorityKeyId.value? with
  | some id =>
    agree id.keyId issuer.subjectKeyId.value? && agree id.serial (some issuer.body.serial)
      && issuerNameFits issuer id
  | none => true

/-- Whether the issuer's key is of the kind that makes the subject's signature. -/
def keyFits (issuer subject : Certificate) : Bool :=
  match issuer.key?, Scheme.ofOid? subject.body.algorithm.oid with
  | some key, some scheme => scheme.fits key
  | _, _ => false

/-- Whether a certificate may be the issuer of another. -/
def issues (issuer subject : Certificate) : Bool :=
  issuer.body.subject.same subject.body.issuer && issuer.isSound && subject.isSound
    && authorityFits issuer subject && keyFits issuer subject

/-- Whether a certificate may be its own issuer. -/
def isSelfSigned (c : Certificate) : Bool :=
  issues c c

/-- Whether the use of a key, where it is limited, includes one of the given bits. -/
def usable (c : Certificate) (bits : Nat) : Bool :=
  match c.keyUsage.value? with
  | some usage => firstBits usage &&& bits != 0
  | none => true

/-- The bits of key usage. -/
def signDigests : Nat := 0x80
def encipherKeys : Nat := 0x20
def agreeOnKeys : Nat := 0x08
def signCertificates : Nat := 0x04

/-- The algorithm that is signed is the algorithm of the signature, and the signature fits the
issuer's key. -/
def isSignedBy (subject issuer : Certificate) : Bool :=
  match issuer.key? with
  | some key =>
    subject.algorithm == subject.body.algorithm
      && Signature.verifies key subject.algorithm subject.body.raw subject.signature
  | none => false

/-- Why a certificate is not valid at a moment: it begins to be valid at the first of its two times
and ends to be at the second. -/
def timeFault? (now : Moment) (c : Certificate) : Option Cause :=
  match c.body.notBefore.moment? with
  | none => some .notBeforeUnreadable
  | some first =>
    if now < first then some .notYetValid
    else match c.body.notAfter.moment? with
      | none => some .notAfterUnreadable
      | some last => if last ≤ now then some .expired else none

/-- Whether a certificate is valid at a moment. -/
def isCurrent (now : Moment) (c : Certificate) : Bool :=
  (timeFault? now c).isNone

/-- Whether a certificate stays valid longer than another. -/
def outlives (a b : Certificate) : Bool :=
  match a.body.notAfter.moment?, b.body.notAfter.moment? with
  | some x, some y => y < x
  | _, _ => false

/-- The first of those certificates that stay valid longest. -/
def lastToExpire? : List Certificate → Option Certificate
  | [] => none
  | c :: rest => some (rest.foldl (fun best c => if outlives c best then c else best) c)

/-- The best of several issuers: the first that is valid now, and if none is, the last to expire. -/
def best? (now : Moment) (candidates : List Certificate) : Option Certificate :=
  (candidates.find? (isCurrent now)).or (lastToExpire? candidates)

end PeerTrust.Path
