import PeerTrust.Digest.Block

/-!
# MD5

The digest of 16 octets, kept for the signatures of old certificates.
-/

namespace PeerTrust.Digest

/-- The step constants of MD5: the integer parts of 2³² · |sin i|. -/
def md5Constants : List UInt32 :=
  [0xd76aa478, 0xe8c7b756, 0x242070db, 0xc1bdceee, 0xf57c0faf, 0x4787c62a, 0xa8304613, 0xfd469501,
   0x698098d8, 0x8b44f7af, 0xffff5bb1, 0x895cd7be, 0x6b901122, 0xfd987193, 0xa679438e, 0x49b40821,
   0xf61e2562, 0xc040b340, 0x265e5a51, 0xe9b6c7aa, 0xd62f105d, 0x02441453, 0xd8a1e681, 0xe7d3fbc8,
   0x21e1cde6, 0xc33707d6, 0xf4d50d87, 0x455a14ed, 0xa9e3e905, 0xfcefa3f8, 0x676f02d9, 0x8d2a4c8a,
   0xfffa3942, 0x8771f681, 0x6d9d6122, 0xfde5380c, 0xa4beea44, 0x4bdecfa9, 0xf6bb4b60, 0xbebfbc70,
   0x289b7ec6, 0xeaa127fa, 0xd4ef3085, 0x04881d05, 0xd9d4d039, 0xe6db99e5, 0x1fa27cf8, 0xc4ac5665,
   0xf4292244, 0x432aff97, 0xab9423a7, 0xfc93a039, 0x655b59c3, 0x8f0ccc92, 0xffeff47d, 0x85845dd1,
   0x6fa87e4f, 0xfe2ce6e0, 0xa3014314, 0x4e0811a1, 0xf7537e82, 0xbd3af235, 0x2ad7d2bb, 0xeb86d391]

/-- The rotations of MD5, four for each of the four rounds. -/
def md5Rotations : List UInt32 :=
  [7, 12, 17, 22, 5, 9, 14, 20, 4, 11, 16, 23, 6, 10, 15, 21]

/-- The sixty-four steps of MD5, one for each constant; `t` numbers the step. -/
def md5Steps (block : List UInt32) : (t : Nat) → List UInt32 → Registers → Registers
  | _, [], r => r
  | t, k :: ks, r =>
    let (f, g) : UInt32 × Nat :=
      if t < 16 then ((r.b &&& r.c) ||| (~~~r.b &&& r.d), t)
      else if t < 32 then ((r.d &&& r.b) ||| (~~~r.d &&& r.c), (5 * t + 1) % 16)
      else if t < 48 then (r.b ^^^ r.c ^^^ r.d, (3 * t + 5) % 16)
      else (r.c ^^^ (r.b ||| ~~~r.d), 7 * t % 16)
    let turn := md5Rotations.getD (t / 16 * 4 + t % 4) 0
    let b := r.b + rotl32 (r.a + f + k + block.getD g 0) turn
    md5Steps block (t + 1) ks ⟨r.d, b, r.b, r.c, r.e⟩

/-- The 16 octets of the MD5 digest. -/
def md5 (message : Bytes) : Bytes :=
  let start : Registers := ⟨0x67452301, 0xEFCDAB89, 0x98BADCFE, 0x10325476, 0⟩
  let r := (blocks 64 (padded 64 8 spellLittle message)).foldl
    (fun r block => r.add (md5Steps (words32Little block) 0 md5Constants r)) start
  [r.a, r.b, r.c, r.d].flatMap fun w => spellLittle 4 w.toNat

end PeerTrust.Digest
