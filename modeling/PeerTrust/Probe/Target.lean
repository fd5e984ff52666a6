import PeerTrust.Error
import PeerTrust.Url.Reader

/-!
# Probe targets

Where a probe connects: host, port, and how long it waits. A URL gives a target if it is one for
HTTP over TLS.
-/

namespace PeerTrust

/-- Where a probe connects. -/
structure ProbeTarget where
  host : String
  port : Nat
  /-- In milliseconds. -/
  timeout : Nat
  deriving DecidableEq, Repr

namespace ProbeTarget

/-- How long a probe waits unless told otherwise, in milliseconds. -/
def usualTimeout : Nat := 10000

/-- The port of HTTP over TLS. -/
def usualPort : Nat := 443

/-- The scheme of HTTP over TLS. -/
def scheme : String := "https"

/-- A target with the usual timeout. -/
def of (host : String) (port : Nat) : ProbeTarget :=
  ⟨host, port, usualTimeout⟩

/-- The same target with another timeout. -/
def withTimeout (t : ProbeTarget) (timeout : Nat) : ProbeTarget :=
  { t with timeout }

/-- A host of a URL as a peer is told by it, without brackets around an address. -/
def bareHost (host : Url.Host) : List Char :=
  Text.dropEndWhile (· = ']') (host.written.dropWhile (· = '['))

/-- The target of a URL. -/
def ofUrl (url : Url) : Except EngineError ProbeTarget :=
  let name := String.ofList url.scheme
  if name ≠ scheme then .error (.setup (.unsupportedScheme name))
  else
    match url.host with
    | none => .error (.setup .missingHost)
    | some host => .ok (of (String.ofList (bareHost host)) (url.port.getD usualPort))

/-- The target of a text that is a URL. -/
def ofText (text : String) : Except EngineError ProbeTarget :=
  match Url.ofText text.toList with
  | .error fault => .error (.url fault)
  | .ok url => ofUrl url

end ProbeTarget

end PeerTrust
