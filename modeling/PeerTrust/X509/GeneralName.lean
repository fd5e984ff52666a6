import PeerTrust.X509.Name

/-!
# General names

The names that a certificate can bind beside its subject: host names, addresses, e-mail addresses,
resource identifiers and others. Each form has a tag of its own.
-/

namespace PeerTrust.X509

open PeerTrust.Asn1

/-- A name in one of the forms. -/
inductive GeneralName where
  /-- A name of a registered form with its value. -/
  | other (form : ObjectId) (value : AnyValue)
  | email (text : Bytes)
  | dns (text : Bytes)
  | x400
  | directory (name : Name)
  | ediParty
  | uri (text : Bytes)
  | address (octets : Bytes)
  | registered (oid : ObjectId)
  deriving DecidableEq, Repr

namespace GeneralName

/-- The items of an element under a tag that stands for that of a sequence. -/
def tagged? (e : Element) : Option (List Element) :=
  if e.constructed then e.items else none

/-- A name of a registered form. -/
def other? (e : Element) : Option GeneralName := do
  match ← tagged? e with
  | [form, value] =>
    if value.isContextual 0 then
      let oid ← form.object?
      let inner ← value.explicit?
      return .other oid (← AnyValue.ofElement? inner)
    else none
  | _ => none

/-- The tag numbers of texts for directories. -/
def directoryTags : List Nat :=
  [tagUtf8, tagPrintable, tagTeletex, tagUniversalString, tagBmp]

/-- Whether an element is a text for directories under a tag of its own. -/
def isDirectoryText (e : Element) : Bool :=
  match e.explicit? with
  | some inner =>
    inner.tag.cls = .universal && directoryTags.contains inner.tag.number &&
      match inner.stringContents? with
      | some contents => fitsString inner.tag.number contents
      | none => false
  | none => false

/-- A party of electronic data interchange: an assigner, which may be absent, and a name. -/
def ediParty? (e : Element) : Option GeneralName := do
  let (assigner, rest) := takeContextual 0 (← tagged? e)
  match rest with
  | [party] =>
    if (assigner.map isDirectoryText).getD true ∧ party.isContextual 1 ∧ isDirectoryText party then
      some .ediParty
    else none
  | _ => none

/-- A registered identifier. -/
def registered? (e : Element) : Option GeneralName := do
  let bs ← e.plainContents?
  if isObject bs then some (.registered bs) else none

/-- Reads a name. -/
def ofElement? (e : Element) : Option GeneralName :=
  if e.tag.cls ≠ .contextual then none
  else match e.tag.number with
  | 0 => other? e
  | 1 => e.stringContents?.map .email
  | 2 => e.stringContents?.map .dns
  | 3 => if e.constructed then some .x400 else none
  | 4 => (e.explicit?.bind Name.ofElement?).map .directory
  | 5 => ediParty? e
  | 6 => e.stringContents?.map .uri
  | 7 => e.stringContents?.map .address
  | 8 => registered? e
  | _ => none

/-- Reads a list of names. -/
def list? (e : Element) : Option (List GeneralName) := do
  (← e.sequenceOf?).mapM ofElement?

/-- Reads a list of names under a tag that stands for that of a sequence. -/
def taggedList? (e : Element) : Option (List GeneralName) := do
  (← e.items).mapM ofElement?

end GeneralName

end PeerTrust.X509
