import PeerTrust.Armour
import PeerTrust.Asn1.Value
import PeerTrust.Text.Utf8

/-!
# A specimen of a certificate

The smallest certificates that can stand alone at the end of a path: version three, one subject that
is its own issuer, a key that makes signatures, and host names as the only extension. The signature
is made up, as that of the certificate on top of a path is not looked at.
-/

namespace PeerTrust.Specimen

open PeerTrust.Asn1

/-- An object identifier, by its octets. -/
def object (octets : Bytes) : Bytes :=
  writePrimitive tagObject octets

/-- The algorithm of keys and signatures on the Edwards curve of 255 bits. -/
def edwards : Bytes :=
  writeSequence [object [0x2B, 0x65, 0x70]]

/-- A name of one common name. -/
def name (text : String) : Bytes :=
  writeSequence [write ⟨.universal, tagSet⟩ true
    (writeSequence [object [0x55, 0x04, 0x03], writePrimitive tagUtf8 (Utf8.encodeString text)])]

/-- A validity that spans all times between two dates. -/
def validity : Bytes :=
  writeSequence [writePrimitive tagUtcTime (Utf8.encodeString "750101000000Z"),
    writePrimitive tagGeneralizedTime (Utf8.encodeString "99991231235959Z")]

/-- A public key on the curve. -/
def key : Bytes :=
  writeSequence [edwards, writePrimitive tagBitString (0 ::
    [0x52, 0xC4, 0xC3, 0xE4, 0x55, 0xA0, 0x38, 0xF9, 0x9E, 0x05, 0xDF, 0x76,
     0x27, 0xB3, 0x43, 0x75, 0xA5, 0x24, 0x19, 0x04, 0x75, 0x54, 0x75, 0xAE,
     0x81, 0xE0, 0x2F, 0x24, 0x4C, 0x98, 0xAF, 0xE7])]

/-- The extension of alternative names, with host names only. -/
def altNames (hosts : List Bytes) : Bytes :=
  writeSequence [object [0x55, 0x1D, 0x11], writePrimitive tagOctetString
    (writeSequence (hosts.map (write ⟨.contextual, 2⟩ false)))]

/-- The encoding of a certificate for hosts. -/
def certificate (hosts : List Bytes) : Bytes :=
  writeSequence [
    writeSequence [
      write ⟨.contextual, 0⟩ true (writeNatural 2), writeNatural 1, edwards, name "a", validity,
      name "a", key, write ⟨.contextual, 3⟩ true (writeSequence [altNames hosts])],
    edwards, writePrimitive tagBitString (0 :: List.replicate 64 1)]

/-- The encoding of a certificate with extensions. -/
def certificateWith (extensions : List Bytes) : Bytes :=
  writeSequence [
    writeSequence [
      write ⟨.contextual, 0⟩ true (writeNatural 2), writeNatural 1, edwards, name "a", validity,
      name "a", key, write ⟨.contextual, 3⟩ true (writeSequence extensions)],
    edwards, writePrimitive tagBitString (0 :: List.replicate 64 1)]

/-- The encoding of a certificate whose signature is of an algorithm that is written already. -/
def certificateBy (algorithm : Bytes) : Bytes :=
  writeSequence [
    writeSequence [
      write ⟨.contextual, 0⟩ true (writeNatural 2), writeNatural 1, edwards, name "a", validity,
      name "a", key,
      write ⟨.contextual, 3⟩ true (writeSequence [altNames [Utf8.encodeString "a"]])],
    algorithm, writePrimitive tagBitString (0 :: List.replicate 64 1)]

/-- The algorithm on the Edwards curve with parameters: an empty value of universal number zero whose
length is written in two octets. With one octet it would be a mark for the end of contents, like the
one behind it, as the algorithm itself has no length. -/
def markedAlgorithm : Bytes :=
  [0x30, 0x80] ++ object [0x2B, 0x65, 0x70] ++ [0x00, 0x81, 0x00] ++ [0x00, 0x00]

/-- A certificate in armour. -/
def armour (der : Bytes) : String :=
  String.ofList (Armour.write "CERTIFICATE" der)

end PeerTrust.Specimen
