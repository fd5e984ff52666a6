import PeerTrust.Curve.Binary
import PeerTrust.Curve.Named
import PeerTrust.X509.Certificate

/-!
# Public keys

What a SubjectPublicKeyInfo says about a key, read according to its algorithm, and the one way in
which a key is written. Two spellings of a key with the same meaning are written alike: parameters
that say nothing are dropped or put in their usual form, and numbers are written in the fewest
octets. The form in which a point of a curve was given is kept.
-/

namespace PeerTrust.X509

open PeerTrust.Asn1

/-- The digests that a restriction of a key can name. -/
inductive HashName where
  | md5
  | sha1
  | sha224
  | sha256
  | sha384
  | sha512
  | sha512t224
  | sha512t256
  | sha3t224
  | sha3t256
  | sha3t384
  | sha3t512
  deriving DecidableEq, Repr

namespace HashName

/-- The digests with their object identifiers. -/
def registry : List (ObjectId × HashName) :=
  [(ObjectId.dotted "1.2.840.113549.2.5", md5),
   (ObjectId.dotted "1.3.14.3.2.26", sha1),
   (ObjectId.dotted "2.16.840.1.101.3.4.2.4", sha224),
   (ObjectId.dotted "2.16.840.1.101.3.4.2.1", sha256),
   (ObjectId.dotted "2.16.840.1.101.3.4.2.2", sha384),
   (ObjectId.dotted "2.16.840.1.101.3.4.2.3", sha512),
   (ObjectId.dotted "2.16.840.1.101.3.4.2.5", sha512t224),
   (ObjectId.dotted "2.16.840.1.101.3.4.2.6", sha512t256),
   (ObjectId.dotted "2.16.840.1.101.3.4.2.7", sha3t224),
   (ObjectId.dotted "2.16.840.1.101.3.4.2.8", sha3t256),
   (ObjectId.dotted "2.16.840.1.101.3.4.2.9", sha3t384),
   (ObjectId.dotted "2.16.840.1.101.3.4.2.10", sha3t512)]

/-- The digest that an object identifier names. -/
def ofOid? (oid : ObjectId) : Option HashName :=
  (registry.find? (·.1 == oid)).map (·.2)

/-- The object identifier of a digest. -/
def oid (h : HashName) : ObjectId :=
  ((registry.find? (·.2 == h)).map (·.1)).getD []

/-- The digests that a written restriction can name. -/
def writable : HashName → Bool
  | md5 | sha3t224 | sha3t256 | sha3t384 | sha3t512 => false
  | _ => true

end HashName

/-- The restriction of a key to one probabilistic signature scheme. -/
structure PssParameters where
  hash : HashName
  maskHash : HashName
  saltLength : Nat
  trailer : Nat
  deriving DecidableEq, Repr

/-- The mask generation function. -/
def oidMaskGeneration : ObjectId := ObjectId.dotted "1.2.840.113549.1.1.8"

namespace PssParameters

/-- The digest in a tagged field, which may be absent. -/
def hash? : Option Element → Option HashName
  | none => some .sha1
  | some e => do
    let algorithm ← Algorithm.ofElement? (← e.explicit?)
    HashName.ofOid? algorithm.oid

/-- The digest of the mask generation in a tagged field, which may be absent. -/
def maskHash? : Option Element → Option HashName
  | none => some .sha1
  | some e => do
    match (← e.explicit?).sequence? with
    | some [type, inner] =>
      if (← type.object?) = oidMaskGeneration then
        HashName.ofOid? (← Algorithm.ofElement? inner).oid
      else none
    | _ => none

/-- The number in a tagged field, which may be absent. -/
def number? (absent : Nat) : Option Element → Option Nat
  | none => some absent
  | some e => do
    let n ← (← e.explicit?).integer?
    if 0 ≤ n ∧ n < 0x80000000 then some n.toNat else none

/-- Reads the parameters. -/
def ofElement? (e : Element) : Option PssParameters := do
  let (hash, rest) := takeContextual 0 (← e.sequence?)
  let (mask, rest) := takeContextual 1 rest
  let (salt, rest) := takeContextual 2 rest
  let (trailer, rest) := takeContextual 3 rest
  if rest.isEmpty then
    return ⟨← hash? hash, ← maskHash? mask, ← number? 20 salt, ← number? 1 trailer⟩
  else none

/-- An algorithm identifier of a digest, with empty parameters. -/
def writeHash (h : HashName) : Bytes :=
  (Algorithm.mk h.oid (some (.universal tagNull []))).write

/-- A field under a tag of its own, left out when it says nothing new. -/
def field (number : Nat) (leaveOut : Bool) (contents : Bytes) : Bytes :=
  if leaveOut then [] else Asn1.write ⟨.contextual, number⟩ true contents

/-- Writes the parameters. -/
def write (q : PssParameters) : Bytes :=
  writeSequence
    [field 0 (q.hash = .sha1) (writeHash q.hash),
     field 1 (q.maskHash = .sha1)
       (writeSequence [writePrimitive tagObject oidMaskGeneration, writeHash q.maskHash]),
     field 2 (q.saltLength = 20) (writeNatural q.saltLength),
     field 3 (q.trailer = 1) (writeNatural q.trailer)]

end PssParameters

/-- The curve of a key. -/
inductive KeyCurve where
  /-- A curve named by an object identifier. -/
  | byName (oid : ObjectId) (curve : Curve.Weierstrass)
  /-- A curve whose parameters are spelled out, the base point in the form that an octet names. -/
  | spelled (curve : Curve.Weierstrass) (seed : Option Bytes) (form : UInt8)
  /-- A curve over a field of bits, named by an object identifier. -/
  | overBits (oid : ObjectId) (curve : Curve.Binary)
  deriving DecidableEq, Repr

namespace KeyCurve

/-- The curve itself, if it is one over a prime field. -/
def prime? : KeyCurve → Option Curve.Weierstrass
  | byName _ c => some c
  | spelled c .. => some c
  | overBits .. => none

/-- Whether octets are a point of the curve. -/
def accepts (curve : KeyCurve) (octets : Bytes) : Bool :=
  match curve with
  | byName _ c => (c.point? octets).isSome
  | spelled c .. => (c.point? octets).isSome
  | overBits _ c => c.accepts octets

/-- Whether the parameters are spelled out. -/
def isSpelled : KeyCurve → Bool
  | spelled .. => true
  | _ => false

end KeyCurve

/-- The kinds of key whose octets carry no structure. -/
inductive RawKey where
  | x25519
  | x448
  | ed25519
  | ed448
  /-- A key of a newer kind that signs. -/
  | lattice (oid : ObjectId) (size : Nat)
  /-- A key of a newer kind for agreement on a secret. -/
  | encapsulation (oid : ObjectId) (size : Nat)
  deriving DecidableEq, Repr

/-- The sizes of keys of newer kinds that sign, by object identifier. -/
def latticeSizes : List (ObjectId × Nat) :=
  let family (root : String) (first : Nat) (sizes : List Nat) :=
    sizes.zipIdx.map fun (size, i) => (ObjectId.dotted root ++ ObjectId.arc (first + i), size)
  family "2.16.840.1.101.3.4.3" 17
    [1312, 1952, 2592, 32, 32, 48, 48, 64, 64, 32, 32, 48, 48, 64, 64]

/-- The sizes of keys of newer kinds for agreement on a secret, by object identifier. -/
def encapsulationSizes : List (ObjectId × Nat) :=
  [(ObjectId.dotted "2.16.840.1.101.3.4.4.1", 800),
   (ObjectId.dotted "2.16.840.1.101.3.4.4.2", 1184),
   (ObjectId.dotted "2.16.840.1.101.3.4.4.3", 1568)]

/-- Whether numbers of twelve bits, two in three octets, lie below the modulus 3329. -/
def areReduced : Bytes → Bool
  | a :: b :: c :: rest =>
    a.toNat + 256 * (b.toNat % 16) < 3329 && b.toNat / 16 + 16 * c.toNat < 3329 && areReduced rest
  | _ => true

namespace RawKey

/-- The kind that an object identifier names. -/
def ofOid? (oid : ObjectId) : Option RawKey :=
  if oid = ObjectId.dotted "1.3.101.110" then some x25519
  else if oid = ObjectId.dotted "1.3.101.111" then some x448
  else if oid = ObjectId.dotted "1.3.101.112" then some ed25519
  else if oid = ObjectId.dotted "1.3.101.113" then some ed448
  else
    match latticeSizes.find? (·.1 == oid), encapsulationSizes.find? (·.1 == oid) with
    | some (oid, size), _ => some (lattice oid size)
    | none, some (oid, size) => some (encapsulation oid size)
    | none, none => none

/-- The object identifier of a kind. -/
def oid : RawKey → ObjectId
  | x25519 => ObjectId.dotted "1.3.101.110"
  | x448 => ObjectId.dotted "1.3.101.111"
  | ed25519 => ObjectId.dotted "1.3.101.112"
  | ed448 => ObjectId.dotted "1.3.101.113"
  | lattice oid _ => oid
  | encapsulation oid _ => oid

/-- How many octets a key has. -/
def size : RawKey → Nat
  | x25519 => 32
  | x448 => 56
  | ed25519 => 32
  | ed448 => 57
  | lattice _ size => size
  | encapsulation _ size => size

/-- Whether octets are a key of the kind. One for agreement ends in a seed of 32 octets, before
which there are reduced numbers. -/
def fits (kind : RawKey) (octets : Bytes) : Bool :=
  octets.length == kind.size &&
    match kind with
    | encapsulation _ size => areReduced (octets.take (size - 32))
    | _ => true

end RawKey

/-- A group for agreement on a secret, with what may be said about how it was made. -/
structure AgreementGroup where
  p : Nat
  g : Nat
  q : Nat
  cofactor : Option Nat
  /-- The seed of the group and how many were tried. -/
  origin : Option (Bytes × Nat)
  deriving DecidableEq, Repr

/-- Writes a group for agreement. -/
def AgreementGroup.write (group : AgreementGroup) : Bytes :=
  let origin := group.origin.map fun (seed, count) =>
    writeSequence [BitString.write ⟨0, seed⟩, writeNatural count]
  writeSequence
    [writeNatural group.p, writeNatural group.g, writeNatural group.q,
     (group.cofactor.map writeNatural).getD [], origin.getD []]

/-- A public key. -/
inductive SubjectKey where
  | rsa (modulus exponent : Nat)
  | rsaPss (restriction : Option PssParameters) (modulus exponent : Nat)
  /-- A point, in the octets in which it was given. -/
  | curvePoint (curve : KeyCurve) (octets : Bytes)
  /-- A number with the group p, q, g that it belongs to. -/
  | dsa (p q g : Nat) (value : Int)
  /-- A number for agreement on a secret, with the prime and the base of its group. -/
  | agreement (p g : Nat) (secretLength : Int) (value : Int)
  /-- A number for agreement on a secret, with a group whose order is stated. -/
  | subgroupAgreement (group : AgreementGroup) (value : Int)
  | raw (kind : RawKey) (octets : Bytes)
  deriving DecidableEq, Repr

/-- The types of key that have structure. -/
def oidRsa : ObjectId := ObjectId.dotted "1.2.840.113549.1.1.1"
def oidRsaPss : ObjectId := ObjectId.dotted "1.2.840.113549.1.1.10"
def oidCurvePoint : ObjectId := ObjectId.dotted "1.2.840.10045.2.1"
def oidDsa : ObjectId := ObjectId.dotted "1.2.840.10040.4.1"
def oidAgreement : ObjectId := ObjectId.dotted "1.2.840.113549.1.3.1"
def oidSubgroupAgreement : ObjectId := ObjectId.dotted "1.2.840.10046.2.1"
def oidPrimeField : ObjectId := ObjectId.dotted "1.2.840.10045.1.1"

namespace SubjectKey

/-- The modulus and exponent that octets hold; what follows them does not matter. -/
def rsaNumbers? (octets : Bytes) : Option (Nat × Nat) := do
  let (e, _) ← Element.read octets
  match e.sequence? with
  | some [n, x] => return (← n.unsigned?, ← x.unsigned?)
  | _ => none

/-- The element that verbatim octets hold. -/
def elementOf? (octets : Bytes) : Option Element :=
  (Element.read octets).map (·.1)

/-- A prime field. -/
def primeField? (e : Element) : Option Nat := do
  match e.sequence? with
  | some [type, p] =>
    let n ← p.integer?
    if (← type.object?) = oidPrimeField ∧ 0 < n then some n.toNat else none
  | _ => none

/-- The coefficients of a curve and the seed they may have been made from. -/
def coefficients? (e : Element) : Option (Bytes × Bytes × Option Bytes) := do
  match e.sequence? with
  | some [a, b] => return (← a.octetString?, ← b.octetString?, none)
  | some [a, b, seed] =>
    return (← a.octetString?, ← b.octetString?, some (← seed.bitString?).octets)
  | _ => none

/-- How many binary digits a number has. -/
def bitLength (n : Nat) : Nat :=
  if n = 0 then 0 else Nat.log2 n + 1

/-- The longest prime of a field, in binary digits. -/
def longestPrime : Nat := 661

/-- The cofactor of a curve as far as it follows from field and order; zero if it does not. -/
def impliedCofactor (p order : Nat) : Nat :=
  if bitLength order ≤ (bitLength p + 1) / 2 + 3 then 0 else (order / 2 + p + 1) / order

/-- The form of a point in full. -/
def fullForm : UInt8 := 4

/-- A curve that is spelled out as it is kept: one that has a name is the curve of that name, and
the seed of the name then stands for any that is given. -/
def spelledAs (given : Curve.Weierstrass) (seed : Option Bytes) (form : UInt8) : KeyCurve :=
  let implied := impliedCofactor given.p given.order
  match Curve.nameOf? { given with cofactor := implied } with
  | some oid =>
    .spelled { given with cofactor := implied } (seed.bind fun _ => Curve.seed? oid) fullForm
  | none =>
    let cofactor := if given.cofactor = 0 then implied else given.cofactor
    .spelled { given with cofactor := cofactor } seed form

/-- A curve whose parameters are spelled out. -/
def spelledCurve? (e : Element) : Option KeyCurve := do
  match ← e.sequence? with
  | version :: field :: coefficients :: base :: order :: rest =>
    let _ ← version.integer?
    let p ← primeField? field
    let (a, b, seed) ← coefficients? coefficients
    let n ← order.integer?
    let cofactor ← match rest with
      | [] => some 0
      | [h] => h.integer?
      | _ => none
    if p % 2 = 0 ∨ p < 5 ∨ longestPrime < bitLength p ∨ n ≤ 0
        ∨ bitLength p + 1 < bitLength n.toNat ∨ cofactor < 0 ∨ seed.any (·.isEmpty) then
      none
    let bare : Curve.Weierstrass :=
      ⟨p, Bytes.toNat a % p, Bytes.toNat b % p, 0, 0, n.toNat, cofactor.toNat⟩
    let octets ← base.octetString?
    match bare.point? octets with
    | some (.affine x y) =>
      return spelledAs { bare with baseX := x, baseY := y } seed (octets.headD fullForm)
    | _ => none
  | _ => none

/-- The curve that parameters name or spell out. -/
def keyCurve? : Option AnyValue → Option KeyCurve
  | some (.universal number contents) =>
    if number ≠ tagObject then none
    else match Curve.named? contents with
      | some c => some (.byName contents c)
      | none => (Curve.namedBinary? contents).map (.overBits contents)
  | some (.verbatim octets) => (elementOf? octets).bind spelledCurve?
  | none => none

/-- The restriction of a key, if its parameters state one. -/
def restriction? : Option AnyValue → Option (Option PssParameters)
  | none => some none
  | some (.verbatim octets) => ((elementOf? octets).bind PssParameters.ofElement?).map some
  | some (.universal ..) => none

/-- The elements of parameters that are a sequence. -/
def parameterItems? : Option AnyValue → Option (List Element)
  | some (.verbatim octets) => (elementOf? octets).bind Element.sequence?
  | _ => none

/-- The group of a key that signs. -/
def group? (parameters : Option AnyValue) : Option (Nat × Nat × Nat) := do
  match ← parameterItems? parameters with
  | [p, q, g] => return (← p.unsigned?, ← q.unsigned?, ← g.unsigned?)
  | _ => none

/-- A length of secrets: an integer of 32 bits, of which zero may be written without octets. -/
def secretLength? (e : Element) : Option Int := do
  let n ← if e.isUniversal tagInteger ∧ e.plainContents? = some [] then some 0 else e.integer?
  if -0x80000000 ≤ n ∧ n < 0x80000000 then return n else none

/-- Prime, base and length of secrets of a key for agreement. -/
def agreementGroup? (parameters : Option AnyValue) : Option (Nat × Nat × Int) := do
  match ← parameterItems? parameters with
  | [p, g] => return (← p.unsigned?, ← g.unsigned?, 0)
  | [p, g, length] => return (← p.unsigned?, ← g.unsigned?, ← secretLength? length)
  | _ => none

/-- How a group was made. An empty seed says nothing, and neither does a count that is too great;
counts are kept to 32 bits. -/
def groupOrigin? (e : Element) : Option (Option (Bytes × Nat)) := do
  match e.sequence? with
  | some [seed, count] =>
    let octets := (← seed.bitString?).octets
    let n ← count.unsigned?
    return if octets.isEmpty ∨ Nat.pow 2 64 ≤ n ∨ Nat.pow 2 31 ≤ n % Nat.pow 2 32 then none
      else some (octets, n % Nat.pow 2 32)
  | _ => none

/-- The group of a key for agreement whose order is stated. -/
def subgroup? (parameters : Option AnyValue) : Option AgreementGroup := do
  match ← parameterItems? parameters with
  | p :: g :: q :: rest =>
    let (cofactor, rest) := takeUniversal tagInteger rest
    let (origin, rest) := takeUniversal tagSequence rest
    if rest.isEmpty then
      let cofactor ← optional? Element.unsigned? cofactor
      let origin ← optional? groupOrigin? origin
      return ⟨← p.unsigned?, ← g.unsigned?, ← q.unsigned?, cofactor, origin.join⟩
    else none
  | _ => none

/-- The integer at the start of an octet string. -/
def integerAt? (octets : Bytes) : Option Int := do
  let (e, _) ← Element.read octets
  e.integer?

/-- Reads a key. -/
def ofInfo? (info : KeyInfo) : Option SubjectKey :=
  let octets := info.bits.octets
  let parameters := info.algorithm.parameters
  let oid := info.algorithm.oid
  if oid = oidRsa then
    (rsaNumbers? octets).map fun (n, e) => .rsa n e
  else if oid = oidRsaPss then do
    let (n, e) ← rsaNumbers? octets
    return .rsaPss (← restriction? parameters) n e
  else if oid = oidCurvePoint then do
    let curve ← keyCurve? parameters
    if curve.accepts octets then return .curvePoint curve octets else none
  else if oid = oidDsa then do
    let (p, q, g) ← group? parameters
    return .dsa p q g (← integerAt? octets)
  else if oid = oidAgreement then do
    let (p, g, length) ← agreementGroup? parameters
    return .agreement p g length (← integerAt? octets)
  else if oid = oidSubgroupAgreement then do
    let group ← subgroup? parameters
    return .subgroupAgreement group (← integerAt? octets)
  else
    match RawKey.ofOid? oid with
    | some kind =>
      if parameters.isNone ∧ kind.fits octets then some (.raw kind octets) else none
    | none => none

/-- The parameters that spell out a curve, its base point in a given form. -/
def writeCurve (c : Curve.Weierstrass) (seed : Option Bytes) (form : UInt8) : Bytes :=
  let number (n : Nat) := writePrimitive tagOctetString (Bytes.ofNat c.fieldSize n)
  writeSequence
    [writeNatural 1,
     writeSequence [writePrimitive tagObject oidPrimeField, writeNatural c.p],
     writeSequence [number c.a, number c.b, (seed.map fun s => BitString.write ⟨0, s⟩).getD []],
     writePrimitive tagOctetString (c.writePoint form c.base),
     writeNatural c.order,
     writeNatural c.cofactor]

/-- A SubjectPublicKeyInfo around an algorithm and the octets of a key. -/
def writeInfo (oid : ObjectId) (parameters octets : Bytes) : Bytes :=
  writeSequence
    [writeSequence [writePrimitive tagObject oid, parameters],
     BitString.write ⟨0, octets⟩]

/-- Two numbers in a sequence. -/
def writeRsaNumbers (n e : Nat) : Bytes :=
  writeSequence [writeNatural n, writeNatural e]

/-- Writes a key. A restriction to an unusual digest and the point at infinity have no written
form. -/
def write? : SubjectKey → Option Bytes
  | rsa n e => some (writeInfo oidRsa (writePrimitive tagNull []) (writeRsaNumbers n e))
  | rsaPss none n e => some (writeInfo oidRsaPss [] (writeRsaNumbers n e))
  | rsaPss (some q) n e =>
    if q.hash.writable ∧ q.maskHash.writable then
      some (writeInfo oidRsaPss q.write (writeRsaNumbers n e))
    else none
  | curvePoint curve octets =>
    if octets = [0] then none
    else match curve with
      | .byName oid _ | .overBits oid _ =>
        some (writeInfo oidCurvePoint (writePrimitive tagObject oid) octets)
      | .spelled c seed form =>
        some (writeInfo oidCurvePoint (writeCurve c seed form) octets)
  | dsa p q g value =>
    let parameters := writeSequence [writeNatural p, writeNatural q, writeNatural g]
    some (writeInfo oidDsa parameters (writeInteger value))
  | agreement p g length value =>
    let parameters := writeSequence
      [writeNatural p, writeNatural g, if length = 0 then [] else writeInteger length]
    some (writeInfo oidAgreement parameters (writeInteger value))
  | subgroupAgreement group value =>
    some (writeInfo oidSubgroupAgreement group.write (writeInteger value))
  | raw kind octets => some (writeInfo kind.oid [] octets)

/-- The octets that a key is written as, if they can be counted. -/
def encoding? (key : SubjectKey) : Option Bytes :=
  key.write?.filter (·.length < Bytes.writtenLimit)

end SubjectKey

end PeerTrust.X509
