import PeerTrust.Asn1.ObjectId
import PeerTrust.Asn1.Value

/-!
# Algorithm identifiers

An algorithm is named by an object identifier and may take parameters of any type.
-/

namespace PeerTrust.X509

open PeerTrust.Asn1

/-- An algorithm with its parameters. -/
structure Algorithm where
  oid : ObjectId
  parameters : Option AnyValue
  deriving DecidableEq, Repr

namespace Algorithm

/-- Reads an algorithm identifier. -/
def ofElement? (e : Element) : Option Algorithm :=
  match e.sequence? with
  | some [type] => type.object?.map (⟨·, none⟩)
  | some [type, parameters] => do
    let oid ← type.object?
    let value ← AnyValue.ofElement? parameters
    return ⟨oid, some value⟩
  | _ => none

/-- Writes an algorithm identifier. -/
def write (a : Algorithm) : Bytes :=
  writeSequence [writePrimitive tagObject a.oid, (a.parameters.map AnyValue.write).getD []]

end Algorithm

end PeerTrust.X509
