import PeerTrust.Certificate

/-!
# Probe reports

What a probe saw of a peer whose chain was accepted.
-/

namespace PeerTrust

/-- What a probe saw. -/
structure ProbeReport where
  host : String
  port : Nat
  protocol : String
  cipher : Option String
  /-- The certificates of the peer, its own first. -/
  chain : List CertificateSummary
  deriving DecidableEq, Repr

/-- The report of a connection over which a chain was accepted. -/
def ProbeReport.ofChain (host : String) (port : Nat) (protocol : String) (cipher : Option String)
    (chain : PeerChain) : ProbeReport :=
  ⟨host, port, protocol, cipher, chain.summaries⟩

end PeerTrust
