import PeerTrust.Digest.Block

/-!
# The Keccak family

A sponge over twenty-five 64-bit lanes: SHA-3 digests and the extendable output SHAKE256. Lanes are
kept as a list, row after row.
-/

namespace PeerTrust.Digest

/-- Rotation of a lane to the left. -/
def rotl64 (x : UInt64) (k : Nat) : UInt64 :=
  if k % 64 = 0 then x
  else (x <<< UInt64.ofNat (k % 64)) ||| (x >>> UInt64.ofNat (64 - k % 64))

/-- The rotation of the lane in column `x` and row `y`, at index `x + 5 * y`. -/
def keccakRotations : List Nat :=
  [0, 1, 62, 28, 27, 36, 44, 6, 55, 20, 3, 10, 43, 25, 39, 41, 45, 15, 21, 8, 18, 2, 61, 56, 14]

/-- The constants of the twenty-four rounds. -/
def keccakConstants : List UInt64 :=
  [0x0000000000000001, 0x0000000000008082, 0x800000000000808A, 0x8000000080008000,
   0x000000000000808B, 0x0000000080000001, 0x8000000080008081, 0x8000000000008009,
   0x000000000000008A, 0x0000000000000088, 0x0000000080008009, 0x000000008000000A,
   0x000000008000808B, 0x800000000000008B, 0x8000000000008089, 0x8000000000008003,
   0x8000000000008002, 0x8000000000000080, 0x000000000000800A, 0x800000008000000A,
   0x8000000080008081, 0x8000000000008080, 0x0000000080000001, 0x8000000080008008]

/-- One round of the permutation. -/
def keccakRound (lanes : List UInt64) (constant : UInt64) : List UInt64 :=
  let lane (i : Nat) := lanes.getD i 0
  let parity := (List.range 5).map fun x =>
    lane x ^^^ lane (x + 5) ^^^ lane (x + 10) ^^^ lane (x + 15) ^^^ lane (x + 20)
  let mix := (List.range 5).map fun x =>
    parity.getD ((x + 4) % 5) 0 ^^^ rotl64 (parity.getD ((x + 1) % 5) 0) 1
  let turned := (List.range 25).map fun i =>
    rotl64 (lane i ^^^ mix.getD (i % 5) 0) (keccakRotations.getD i 0)
  -- The lane that ends in column x of row y comes from column x + 3y of row x.
  let moved := (List.range 25).map fun i =>
    let x := i % 5
    let y := i / 5
    turned.getD ((x + 3 * y) % 5 + 5 * x) 0
  let out := (List.range 25).map fun i =>
    let row := i / 5 * 5
    moved.getD i 0 ^^^ (~~~(moved.getD (row + (i + 1) % 5) 0) &&& moved.getD (row + (i + 2) % 5) 0)
  match out with
  | first :: rest => (first ^^^ constant) :: rest
  | [] => []

/-- The permutation. -/
def keccakPermute (lanes : List UInt64) : List UInt64 :=
  keccakConstants.foldl keccakRound lanes

/-- Little-endian lanes. -/
def lanesOf : Bytes → List UInt64
  | a :: b :: c :: d :: e :: f :: g :: h :: rest =>
    UInt64.ofNat (Bytes.toNat [h, g, f, e, d, c, b, a]) :: lanesOf rest
  | _ => []

/-- Mixes a block into the state and permutes. -/
def keccakAbsorb (lanes : List UInt64) (block : Bytes) : List UInt64 :=
  let input := lanesOf block
  keccakPermute ((List.range 25).map fun i => lanes.getD i 0 ^^^ input.getD i 0)

/-- Output from a state, `rate` octets at a time. -/
def keccakSqueeze (rate : Nat) : (blocks : Nat) → List UInt64 → Bytes
  | 0, _ => []
  | n + 1, lanes =>
    ((lanes.flatMap fun w => spellLittle 8 w.toNat).take rate)
      ++ keccakSqueeze rate n (keccakPermute lanes)

/-- The sponge: `suffix` is the domain octet that follows the message. -/
def keccak (rate : Nat) (suffix : UInt8) (len : Nat) (message : Bytes) : Bytes :=
  let fill := rate - message.length % rate
  let tail : Bytes :=
    if fill = 1 then [suffix ||| 0x80] else suffix :: List.replicate (fill - 2) 0 ++ [0x80]
  let lanes := (blocks rate (message ++ tail)).foldl keccakAbsorb (List.replicate 25 0)
  (keccakSqueeze rate (len / rate + 1) lanes).take len

/-- `len` octets of SHAKE256 output. -/
def shake256 (len : Nat) (message : Bytes) : Bytes :=
  keccak 136 0x1F len message

/-- A SHA-3 digest of `len` octets. -/
def sha3 (len : Nat) (message : Bytes) : Bytes :=
  keccak (200 - 2 * len) 0x06 len message

end PeerTrust.Digest
