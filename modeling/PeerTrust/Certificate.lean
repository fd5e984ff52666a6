import PeerTrust.PublicKey

/-!
# Certificates of a peer

What the engine keeps of a certificate: its octets, its public key in the one spelling, and the
texts that appear in diagnostics. Certificates are equal when their octets are.
-/

namespace PeerTrust

open PeerTrust.X509

/-- A certificate that was read. -/
structure PeerCertificate where
  der : Bytes
  publicKey : PublicKey
  subject : String
  issuer : String
  serial : String
  deriving Repr

instance : BEq PeerCertificate := ⟨fun a b => a.der == b.der⟩

/-- A description of a certificate for reports. -/
structure CertificateSummary where
  subject : String
  issuer : String
  serial : String
  /-- The text of the pin by SHA-256; absent where there is no pin. -/
  pin? : Option String
  deriving DecidableEq, Repr

/-- The text of the pin, empty where there is none. -/
def CertificateSummary.sha256Pin (s : CertificateSummary) : String :=
  s.pin?.getD ""

namespace PeerCertificate

/-- What the engine keeps of a certificate that is carried by the given octets. -/
def ofX509 (der : Bytes) (c : X509.Certificate) : Except CertificateFault PeerCertificate :=
  match (SubjectKey.ofInfo? c.body.keyInfo).bind SubjectKey.encoding? with
  | some key => .ok ⟨der, ⟨key⟩, c.body.subject.shown, c.body.issuer.shown, c.serialText⟩
  | none => .error (.unreadableKey der)

/-- Reads a certificate. Octets that follow it are kept but not read. -/
def ofDer (der : Bytes) : Except CertificateFault PeerCertificate :=
  match X509.Certificate.ofDer? der with
  | some c => ofX509 der c
  | none => .error (.invalidDer der)

/-- The labels of blocks that hold a certificate. -/
def labels : List Bytes :=
  [Bytes.ofLatin "CERTIFICATE", Bytes.ofLatin "X509 CERTIFICATE"]

/-- The certificates in the blocks of a text. Blocks with other labels are skipped, but every block
must be well formed, and a certificate must have no header. -/
def certificates? : List (Option ArmourBlock) → Option (List X509.Certificate)
  | [] => some []
  | none :: _ => none
  | some b :: rest =>
    if labels.contains b.label then
      if b.header.isEmpty then do
        let c ← X509.Certificate.ofDer? b.contents
        return c :: (← certificates? rest)
      else none
    else certificates? rest

/-- What the engine keeps of a certificate that it writes again. -/
def ofWritten (c : X509.Certificate) : Except CertificateFault PeerCertificate :=
  let der := c.write
  if der.length < Bytes.writtenLimit then ofX509 der c else .error (.undecodable .writing der)

/-- Every certificate of an armoured text, in order, each written again. -/
def bundle (text : Bytes) : Except CertificateFault (List PeerCertificate) :=
  match certificates? (Armour.blocks text) with
  | none => .error (.invalidPem text)
  | some [] => .error .noCertificate
  | some cs => cs.mapM ofWritten

/-- The first certificate of an armoured text, all of which must be readable. -/
def ofArmour (text : Bytes) : Except CertificateFault PeerCertificate := do
  match ← bundle text with
  | c :: _ => .ok c
  | [] => .error .noCertificate

/-- The pin of the certificate's key. -/
def pin (c : PeerCertificate) (algorithm : DigestAlgorithm) : Pin :=
  Pin.ofMessage algorithm c.publicKey.der

/-- The pin of the certificate's key, made of its digest as any pin is: the length is checked. -/
def makePin (c : PeerCertificate) (algorithm : DigestAlgorithm) : Except Pin.Fault Pin :=
  Pin.ofHash algorithm (algorithm.digest c.publicKey.der)

/-- The certificate's description. -/
def summary (c : PeerCertificate) : CertificateSummary :=
  ⟨c.subject, c.issuer, c.serial, (c.makePin .sha256).toOption.map Pin.text⟩

/-- The certificate as shown in a diagnostic. -/
def shown (c : PeerCertificate) : String :=
  Text.record "Certificate"
    [("subject", Text.quoted c.subject), ("issuer", Text.quoted c.issuer),
     ("serial", Text.quoted c.serial)]

end PeerCertificate

/-- The certificates that a peer presents, its own first. -/
structure PeerChain where
  certificates : List PeerCertificate
  deriving Repr

instance : BEq PeerChain := ⟨fun a b => a.certificates == b.certificates⟩

namespace PeerChain

/-- Reads a chain; the first certificate that cannot be read fails the whole. -/
def ofDers (ders : List Bytes) : Except CertificateFault PeerChain :=
  (ders.mapM PeerCertificate.ofDer).map PeerChain.mk

/-- Whether there is no certificate. -/
def isEmpty (c : PeerChain) : Bool :=
  c.certificates.isEmpty

/-- How many certificates there are. -/
def length (c : PeerChain) : Nat :=
  c.certificates.length

/-- The peer's own certificate. -/
def leaf? (c : PeerChain) : Option PeerCertificate :=
  c.certificates.head?

/-- The subjects in order. -/
def subjects (c : PeerChain) : List String :=
  c.certificates.map (·.subject)

/-- The texts of the pins in order. A pin that cannot be made is told as missing. -/
def pins (c : PeerChain) (algorithm : DigestAlgorithm) : List String :=
  c.certificates.map fun cert =>
    match cert.makePin algorithm with
    | .ok pin => pin.text
    | .error _ => algorithm.word ++ "/<unavailable>"

/-- The descriptions in order. -/
def summaries (c : PeerChain) : List CertificateSummary :=
  c.certificates.map PeerCertificate.summary

end PeerChain

end PeerTrust
