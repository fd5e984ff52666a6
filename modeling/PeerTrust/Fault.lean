import PeerTrust.Host.Pattern
import PeerTrust.Pin
import PeerTrust.Text.Quoted

/-!
# Faults of certificates, keys and policies

Why a certificate or a key cannot be read and why a policy cannot be built, each as its cause, and
the one wording of each cause. Where a cause lies in octets, it comes with them, since the wording
has in it what the decoder says of them.
-/

namespace PeerTrust

/-- What octets were used for when the decoder failed on them. -/
inductive Stage where
  | certificate
  | certificateArmour
  | certificateKey
  | key
  | keyArmour
  | writing
  | validation
  deriving DecidableEq, Repr

/-- What the decoder says of octets on which it fails, in a line of its own wording. -/
abbrev Diagnosis := Stage → Bytes → String

/-- What a hexadecimal fault says. The octet at fault is shown as the character of its code. -/
def Hex.Fault.message : Hex.Fault → String
  | oddLength => "Odd number of digits"
  | notADigit octet index =>
    "Invalid character " ++ Text.quotedChar (Char.ofNat octet.toNat) ++ " at position "
      ++ toString index

/-- Why a certificate or a public key cannot be read. -/
inductive CertificateFault where
  | invalidDer (der : Bytes)
  | invalidPem (text : Bytes)
  /-- A text holds no certificate at all. -/
  | noCertificate
  /-- The key inside a certificate cannot be read or written. -/
  | unreadableKey (der : Bytes)
  | invalidPemKey (text : Bytes)
  | invalidKey (der : Bytes)
  | invalidHexKey (fault : Hex.Fault)
  /-- No more is told than what the decoder says. -/
  | undecodable (stage : Stage) (octets : Bytes)
  /-- A cause stated elsewhere. -/
  | stated (text : String)
  deriving DecidableEq, Repr

/-- What a certificate fault says. -/
def CertificateFault.message (diagnose : Diagnosis) : CertificateFault → String
  | invalidDer der => "invalid DER certificate: " ++ diagnose .certificate der
  | invalidPem text => "invalid PEM certificate: " ++ diagnose .certificateArmour text
  | noCertificate => "no certificate found in PEM data"
  | unreadableKey der => "unreadable public key: " ++ diagnose .certificateKey der
  | invalidPemKey text => "invalid PEM public key: " ++ diagnose .keyArmour text
  | invalidKey der => "invalid public key: " ++ diagnose .key der
  | invalidHexKey fault => "invalid hex public key: " ++ fault.message
  | undecodable stage octets => diagnose stage octets
  | stated text => text

/-- A certificate fault as the engine reports it. -/
def CertificateFault.report (diagnose : Diagnosis) (fault : CertificateFault) : String :=
  "certificate: " ++ fault.message diagnose

/-- Why a policy cannot be built. -/
inductive PolicyFault where
  | host (fault : HostPattern.Fault)
  | pin (fault : Pin.Fault)
  | noAnchors
  | noKeys
  /-- Trust in every chain needs a debug build. -/
  | trustAllNeedsDebug
  /-- A member of the configuration is absent or blank. -/
  | missing (member : String)
  /-- A member of the configuration cannot be read. -/
  | unreadable (member : String) (fault : CertificateFault)
  /-- A cause stated elsewhere. -/
  | stated (text : String)
  deriving DecidableEq, Repr

/-- What a policy fault says. -/
def PolicyFault.message (diagnose : Diagnosis) : PolicyFault → String
  | host fault => fault.message
  | pin fault => fault.message
  | noAnchors => "anchor list is empty"
  | noKeys => "trusted key set is empty"
  | trustAllNeedsDebug => "trust-all policy requires debug build mode"
  | missing member => "missing `" ++ member ++ "`"
  | unreadable member fault => "`" ++ member ++ "`: " ++ fault.report diagnose
  | stated text => text

end PeerTrust
