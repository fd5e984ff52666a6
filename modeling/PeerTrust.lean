import PeerTrust.Armour
import PeerTrust.Asn1.Element
import PeerTrust.Asn1.ObjectId
import PeerTrust.Asn1.Value
import PeerTrust.Base64
import PeerTrust.Binding
import PeerTrust.Bytes
import PeerTrust.Certificate
import PeerTrust.Config.Basic
import PeerTrust.Config.Reader
import PeerTrust.Curve.Binary
import PeerTrust.Curve.Edwards
import PeerTrust.Curve.Modular
import PeerTrust.Curve.Named
import PeerTrust.Curve.Weierstrass
import PeerTrust.Decimal.Binary
import PeerTrust.Decimal.Shortest
import PeerTrust.Digest
import PeerTrust.Digest.Block
import PeerTrust.Digest.Keccak
import PeerTrust.Digest.Md5
import PeerTrust.Digest.Sha1
import PeerTrust.Digest.Sha2
import PeerTrust.Domain.Ascii
import PeerTrust.Domain.Classes
import PeerTrust.Domain.Label
import PeerTrust.Domain.Mapping
import PeerTrust.Domain.Normal
import PeerTrust.Engine
import PeerTrust.Error
import PeerTrust.Event
import PeerTrust.Fault
import PeerTrust.Host.Address
import PeerTrust.Host.Pattern
import PeerTrust.Json.Fault
import PeerTrust.Json.Reader
import PeerTrust.Json.Writer
import PeerTrust.KeySet
import PeerTrust.Path.Fault
import PeerTrust.Path.Issuance
import PeerTrust.Path.LeafHost
import PeerTrust.Path.Names
import PeerTrust.Path.Search
import PeerTrust.Path.Validate
import PeerTrust.Pin
import PeerTrust.Policy
import PeerTrust.Probe.Report
import PeerTrust.Probe.Target
import PeerTrust.Proofs.Armour
import PeerTrust.Proofs.Asn1.Framing
import PeerTrust.Proofs.Asn1.Sequences
import PeerTrust.Proofs.Asn1.Values
import PeerTrust.Proofs.Asn1.Writing
import PeerTrust.Proofs.Base64
import PeerTrust.Proofs.Base64Language
import PeerTrust.Proofs.BuildFaults
import PeerTrust.Proofs.Bundle
import PeerTrust.Proofs.Bytes
import PeerTrust.Proofs.Config.Given
import PeerTrust.Proofs.Config.Meaning
import PeerTrust.Proofs.Config.OneMeaning
import PeerTrust.Proofs.Config.RoundTrip
import PeerTrust.Proofs.Consultation
import PeerTrust.Proofs.Domain.AsciiName
import PeerTrust.Proofs.EntryPoints
import PeerTrust.Proofs.Equality
import PeerTrust.Proofs.Host.AddressHost
import PeerTrust.Proofs.Host.AddressReading
import PeerTrust.Proofs.Host.AddressText
import PeerTrust.Proofs.Host.CleanName
import PeerTrust.Proofs.Host.Depth
import PeerTrust.Proofs.Host.Language
import PeerTrust.Proofs.Host.Rule
import PeerTrust.Proofs.Json.Grammar
import PeerTrust.Proofs.Json.Passing
import PeerTrust.Proofs.Json.Reading
import PeerTrust.Proofs.Json.Spelling
import PeerTrust.Proofs.Json.Writing
import PeerTrust.Proofs.KeySet
import PeerTrust.Proofs.KeySpelling
import PeerTrust.Proofs.Logging
import PeerTrust.Proofs.Outcome
import PeerTrust.Proofs.Path.Checks
import PeerTrust.Proofs.Path.LeafNames
import PeerTrust.Proofs.Path.Search
import PeerTrust.Proofs.Path.Soundness
import PeerTrust.Proofs.Path.Unreadable
import PeerTrust.Proofs.PinLanguage
import PeerTrust.Proofs.PinText
import PeerTrust.Proofs.Pinning
import PeerTrust.Proofs.ProbeTarget
import PeerTrust.Proofs.ReadEach
import PeerTrust.Proofs.Rereading
import PeerTrust.Proofs.Row
import PeerTrust.Proofs.Session
import PeerTrust.Proofs.Specimen
import PeerTrust.Proofs.TrustAll
import PeerTrust.Proofs.TrustedKeys
import PeerTrust.Proofs.Url.NetworkHost
import PeerTrust.Proofs.WholeChain
import PeerTrust.Proofs.X509.Identity
import PeerTrust.Proofs.X509.KeyParameters
import PeerTrust.Proofs.X509.KeyWriting
import PeerTrust.Proofs.X509.Rewriting
import PeerTrust.Proofs.X509.SpelledCurve
import PeerTrust.PublicKey
import PeerTrust.Session
import PeerTrust.Signature.Dsa
import PeerTrust.Signature.Edwards
import PeerTrust.Signature.Hash
import PeerTrust.Signature.Rsa
import PeerTrust.Signature.Scheme
import PeerTrust.Text.Blank
import PeerTrust.Text.Hex
import PeerTrust.Text.Printable
import PeerTrust.Text.Punycode
import PeerTrust.Text.Quoted
import PeerTrust.Text.Ranges
import PeerTrust.Text.Utf8
import PeerTrust.TrustStore
import PeerTrust.Url.Fault
import PeerTrust.Url.Host
import PeerTrust.Url.Percent
import PeerTrust.Url.Reader
import PeerTrust.Verdict
import PeerTrust.X509.Algorithm
import PeerTrust.X509.Certificate
import PeerTrust.X509.GeneralName
import PeerTrust.X509.Moment
import PeerTrust.X509.Name
import PeerTrust.X509.Statement
import PeerTrust.X509.SubjectKey
