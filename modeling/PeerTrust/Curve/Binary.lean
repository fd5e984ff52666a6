import PeerTrust.Asn1.ObjectId
import PeerTrust.Bytes

/-!
# Curves over fields of bits

Points of y² + x·y = x³ + a·x² + b over a field of polynomials with coefficients 0 and 1, modulo one
that cannot be divided. A polynomial is kept as the number with its coefficients as binary digits.
Only what tells whether octets are a point is here, no sums of points.
-/

namespace PeerTrust.Curve

open PeerTrust.Asn1

/-- The polynomial with the given exponents. -/
def polynomial (exponents : List Nat) : Nat :=
  exponents.foldl (fun n e => n ^^^ Nat.pow 2 e) 0

/-- A curve over a field of bits. -/
structure Binary where
  /-- The polynomial by which the field is reduced. -/
  modulus : Nat
  a : Nat
  b : Nat
  deriving DecidableEq, Repr

namespace Binary

/-- The degree of the field. -/
def degree (c : Binary) : Nat :=
  Nat.log2 c.modulus

/-- How many octets an element of the field takes. -/
def fieldSize (c : Binary) : Nat :=
  (c.degree + 7) / 8

/-- An element times the polynomial x. -/
def shift (c : Binary) (u : Nat) : Nat :=
  let v := 2 * u
  if v.testBit c.degree then v ^^^ c.modulus else v

/-- The product of two elements, from the lowest `bits` digits of the second. -/
def mulBits (c : Binary) (u v : Nat) : (bits : Nat) → Nat
  | 0 => 0
  | bits + 1 =>
    let rest := c.shift (mulBits c u (v / 2) bits)
    if v % 2 = 1 then rest ^^^ u else rest

/-- The product of two elements. -/
def mul (c : Binary) (u v : Nat) : Nat :=
  c.mulBits u v c.degree

/-- An element and its squares, `count` of them. -/
def squares (c : Binary) : (count : Nat) → Nat → List Nat
  | 0, u => [u]
  | count + 1, u => u :: squares c count (c.mul u u)

/-- The inverse of an element: the product of its squares from the first up. -/
def inverse (c : Binary) (u : Nat) : Nat :=
  (squares c (c.degree - 2) (c.mul u u)).foldl c.mul 1

/-- The trace of an element: the sum of it and its squares. -/
def trace (c : Binary) (u : Nat) : Nat :=
  (squares c (c.degree - 1) u).foldl (· ^^^ ·) 0

/-- Whether a number is an element of the field. -/
def hasElement (c : Binary) (u : Nat) : Bool :=
  u < Nat.pow 2 c.degree

/-- Whether two elements are the coordinates of a point. -/
def holds (c : Binary) (x y : Nat) : Bool :=
  let xx := c.mul x x
  c.mul y y ^^^ c.mul x y == c.mul xx x ^^^ c.mul c.a xx ^^^ c.b

/-- Whether an element is the first coordinate of a point: dividing by x² leaves an equation
z² + z = u, which has a solution just when the trace of u is zero. -/
def isFirst (c : Binary) (x : Nat) : Bool :=
  if x = 0 then true
  else
    let i := c.inverse x
    c.trace (x ^^^ c.a ^^^ c.mul c.b (c.mul i i)) == 0

/-- The digit that tells two points with the same first coordinate apart. -/
def sideOf (c : Binary) (x y : Nat) : Nat :=
  if x = 0 then 0 else c.mul y (c.inverse x) % 2

/-- Whether octets are a point: a zero octet for infinity, one coordinate with the side of the
other, or both coordinates with or without the side once more. -/
def accepts (c : Binary) (octets : Bytes) : Bool :=
  let size := c.fieldSize
  match octets with
  | [] => false
  | form :: rest =>
    let x := Bytes.toNat (rest.take size)
    let y := Bytes.toNat (rest.drop size)
    if form = 0 then rest.isEmpty
    else if form = 2 ∨ form = 3 then rest.length == size && c.hasElement x && c.isFirst x
    else if form = 4 ∨ form = 6 ∨ form = 7 then
      rest.length == 2 * size && c.hasElement x && c.hasElement y && c.holds x y
        && (form = 4 || c.sideOf x y == form.toNat % 2)
    else false

end Binary

/-- The curves over fields of bits that have a registered name. -/
def namedBinary : List (ObjectId × Binary) :=
  [(ObjectId.dotted "1.3.132.0.4",
    ⟨polynomial [113, 9, 0],
     0x3088250ca6e7c7fe649ce85820f7,
     0xe8bee4d3e2260744188be0e9c723⟩),
   (ObjectId.dotted "1.3.132.0.5",
    ⟨polynomial [113, 9, 0],
     0x689918dbec7e5a0dd6dfc0aa55c7,
     0x95e9a9ec9b297bd4bf36e059184f⟩),
   (ObjectId.dotted "1.3.132.0.22",
    ⟨polynomial [131, 8, 3, 2, 0],
     0x7a11b09a76b562144418ff3ff8c2570b8,
     0x217c05610884b63b9c6c7291678f9d341⟩),
   (ObjectId.dotted "1.3.132.0.23",
    ⟨polynomial [131, 8, 3, 2, 0],
     0x3e5a88919d7cafcbf415f07c2176573b2,
     0x4b8266a46c55657ac734ce38f018f2192⟩),
   (ObjectId.dotted "1.3.132.0.1",
    ⟨polynomial [163, 7, 6, 3, 0],
     0x1,
     0x1⟩),
   (ObjectId.dotted "1.3.132.0.2",
    ⟨polynomial [163, 7, 6, 3, 0],
     0x7b6882caaefa84f9554ff8428bd88e246d2782ae2,
     0x713612dcddcb40aab946bda29ca91f73af958afd9⟩),
   (ObjectId.dotted "1.3.132.0.15",
    ⟨polynomial [163, 7, 6, 3, 0],
     0x1,
     0x20a601907b8c953ca1481eb10512f78744a3205fd⟩),
   (ObjectId.dotted "1.3.132.0.24",
    ⟨polynomial [193, 15, 0],
     0x17858feb7a98975169e171f77b4087de098ac8a911df7b01,
     0xfdfb49bfe6c3a89facadaa7a1e5bbc7cc1c2e5d831478814⟩),
   (ObjectId.dotted "1.3.132.0.25",
    ⟨polynomial [193, 15, 0],
     0x163f35a5137c2ce3ea6ed8667190b0bc43ecd69977702709b,
     0xc9bb9e8927d4d64c377e2ab2856a5b16e3efb7f61d4316ae⟩),
   (ObjectId.dotted "1.3.132.0.26",
    ⟨polynomial [233, 74, 0],
     0x0,
     0x1⟩),
   (ObjectId.dotted "1.3.132.0.27",
    ⟨polynomial [233, 74, 0],
     0x1,
     0x66647ede6c332c7f8c0923bb58213b333b20e9ce4281fe115f7d8f90ad⟩),
   (ObjectId.dotted "1.3.132.0.3",
    ⟨polynomial [239, 158, 0],
     0x0,
     0x1⟩),
   (ObjectId.dotted "1.3.132.0.16",
    ⟨polynomial [283, 12, 7, 5, 0],
     0x0,
     0x1⟩),
   (ObjectId.dotted "1.3.132.0.17",
    ⟨polynomial [283, 12, 7, 5, 0],
     0x1,
     0x27b680ac8b8596da5a4af8a19a0303fca97fd7645309fa2a581485af6263e313b79a2f5⟩),
   (ObjectId.dotted "1.3.132.0.36",
    ⟨polynomial [409, 87, 0],
     0x0,
     0x1⟩),
   (ObjectId.dotted "1.3.132.0.37",
    ⟨polynomial [409, 87, 0],
     0x1,
     0x21a5c2c8ee9feb5c4b9a753b7b476b7fd6422ef1f3dd674761fa99d6ac27c8a9a197b272822f6cd57a55aa4f50ae317b13545f⟩),
   (ObjectId.dotted "1.3.132.0.38",
    ⟨polynomial [571, 10, 5, 2, 0],
     0x0,
     0x1⟩),
   (ObjectId.dotted "1.3.132.0.39",
    ⟨polynomial [571, 10, 5, 2, 0],
     0x1,
     0x2f40e7e2221f295de297117b7f3d62f5c6a97ffcb8ceff1cd6ba8ce4a9a18ad84ffabbd8efa59332be7ad6756a66e294afd185a78ff12aa520e4de739baca0c7ffeff7f2955727a⟩),
   (ObjectId.dotted "1.2.840.10045.3.0.1",
    ⟨polynomial [163, 8, 2, 1, 0],
     0x72546b5435234a422e0789675f432c89435de5242,
     0xc9517d06d5240d3cff38c74b20b6cd4d6f9dd4d9⟩),
   (ObjectId.dotted "1.2.840.10045.3.0.2",
    ⟨polynomial [163, 8, 2, 1, 0],
     0x108b39e77c4b108bed981ed0e890e117c511cf072,
     0x667aceb38af4e488c407433ffae4f1c811638df20⟩),
   (ObjectId.dotted "1.2.840.10045.3.0.3",
    ⟨polynomial [163, 8, 2, 1, 0],
     0x7a526c63d3e25a256a007699f5447e32ae456b50e,
     0x3f7061798eb99e238fd6f1bf95b48feeb4854252b⟩),
   (ObjectId.dotted "1.2.840.10045.3.0.4",
    ⟨polynomial [176, 43, 2, 1, 0],
     0xe4e6db2995065c407d9d39b8d0967b96704ba8e9c90b,
     0x5dda470abe6414de8ec133ae28e9bbd7fcec0ae0fff2⟩),
   (ObjectId.dotted "1.2.840.10045.3.0.5",
    ⟨polynomial [191, 9, 0],
     0x2866537b676752636a68f56554e12640276b649ef7526267,
     0x2e45ef571f00786f67b0081b9495a3d95462f5de0aa185ec⟩),
   (ObjectId.dotted "1.2.840.10045.3.0.6",
    ⟨polynomial [191, 9, 0],
     0x401028774d7777c7b7666d1366ea432071274f89ff01e718,
     0x620048d28bcbd03b6249c99182b7c8cd19700c362c46a01⟩),
   (ObjectId.dotted "1.2.840.10045.3.0.7",
    ⟨polynomial [191, 9, 0],
     0x6c01074756099122221056911c77d77e77a777e7e7e77fcb,
     0x71fe1af926cf847989efef8db459f66394d90f32ad3f15e8⟩),
   (ObjectId.dotted "1.2.840.10045.3.0.10",
    ⟨polynomial [208, 83, 2, 1, 0],
     0x0,
     0xc8619ed45a62e6212e1160349e2bfa844439fafc2a3fd1638f9e⟩),
   (ObjectId.dotted "1.2.840.10045.3.0.11",
    ⟨polynomial [239, 36, 0],
     0x32010857077c5431123a46b808906756f543423e8d27877578125778ac76,
     0x790408f2eedaf392b012edefb3392f30f4327c0ca3f31fc383c422aa8c16⟩),
   (ObjectId.dotted "1.2.840.10045.3.0.12",
    ⟨polynomial [239, 36, 0],
     0x4230017757a767fae42398569b746325d45313af0766266479b75654e65f,
     0x5037ea654196cff0cd82b2c14a2fcf2e3ff8775285b545722f03eacdb74b⟩),
   (ObjectId.dotted "1.2.840.10045.3.0.13",
    ⟨polynomial [239, 36, 0],
     0x1238774666a67766d6676f778e676b66999176666e687666d8766c66a9f,
     0x6a941977ba9f6a435199acfc51067ed587f519c5ecb541b8e44111de1d40⟩),
   (ObjectId.dotted "1.2.840.10045.3.0.16",
    ⟨polynomial [272, 56, 3, 1, 0],
     0x91a091f03b5fba4ab2ccf49c4edd220fb028712d42be752b2c40094dbacdb586fb20,
     0x7167efc92bb2e3ce7c8aaaff34e12a9c557003d7c73a6faf003f99f6cc8482e540f7⟩),
   (ObjectId.dotted "1.2.840.10045.3.0.17",
    ⟨polynomial [304, 11, 2, 1, 0],
     0xfd0d693149a118f651e6dce6802085377e5f882d1b510b44160074c1288078365a0396c8e681,
     0xbddb97e555a50a908e43b01c798ea5daa6788f1ea2794efcf57166b8c14039601e55827340be⟩),
   (ObjectId.dotted "1.2.840.10045.3.0.18",
    ⟨polynomial [359, 68, 0],
     0x5667676a654b20754f356ea92017d946567c46675556f19556a04616b567d223a5e05656fb549016a96656a557,
     0x2472e2d0197c49363f1fe7f5b6db075d52b6947d135d8ca445805d39bc345626089687742b6329e70680231988⟩),
   (ObjectId.dotted "1.2.840.10045.3.0.19",
    ⟨polynomial [368, 85, 2, 1, 0],
     0xe0d2ee25095206f5e2a4f9ed229f1f256e79a0e2b455970d8d0d865bd94778c576d62f0ab7519ccd2a1a906ae30d,
     0xfc1217d4320a90452c760a58edcd30c8dd069b3c34453837a34ed50cb54917e1c2112d84d164f444f8f74786046a⟩),
   (ObjectId.dotted "1.2.840.10045.3.0.20",
    ⟨polynomial [431, 120, 0],
     0x1a827ef00dd6fc0e234caf046c6a5d8a85395b236cc4ad2cf32a0cadbdc9ddf620b0eb9906d0957f6c6feacd615468df104de296cd8f,
     0x10d9b4a3d9047d8b154359abfb1b7f5485b04ceb868237ddc9deda982a679a5a919b626d4e50a8dd731b107a9962381fb5d807bf2618⟩),
   (ObjectId.dotted "2.23.43.1.4.1",
    ⟨polynomial [113, 9, 0],
     0x1,
     0x1⟩),
   (ObjectId.dotted "2.23.43.1.4.3",
    ⟨polynomial [163, 7, 6, 3, 0],
     0x1,
     0x1⟩),
   (ObjectId.dotted "2.23.43.1.4.4",
    ⟨polynomial [113, 9, 0],
     0x3088250ca6e7c7fe649ce85820f7,
     0xe8bee4d3e2260744188be0e9c723⟩),
   (ObjectId.dotted "2.23.43.1.4.5",
    ⟨polynomial [163, 8, 2, 1, 0],
     0x72546b5435234a422e0789675f432c89435de5242,
     0xc9517d06d5240d3cff38c74b20b6cd4d6f9dd4d9⟩),
   (ObjectId.dotted "2.23.43.1.4.10",
    ⟨polynomial [233, 74, 0],
     0x0,
     0x1⟩),
   (ObjectId.dotted "2.23.43.1.4.11",
    ⟨polynomial [233, 74, 0],
     0x1,
     0x66647ede6c332c7f8c0923bb58213b333b20e9ce4281fe115f7d8f90ad⟩)]

/-- The curve over a field of bits that an object identifier names. -/
def namedBinary? (oid : ObjectId) : Option Binary :=
  (namedBinary.find? (·.1 == oid)).map (·.2)

end PeerTrust.Curve
