import PeerTrust.Digest.Block

/-!
# SHA-1

The digest of 20 octets, over blocks of sixteen 32-bit words.
-/

namespace PeerTrust.Digest

/-- The eighty steps of SHA-1. The first word of the window is the one in use; the window then
moves by one word of the expanded message. -/
def sha1Steps : (left : Nat) → (window : List UInt32) → Registers → Registers
  | 0, _, r => r
  | left + 1, window, r =>
    let t := 79 - left
    let (f, k) : UInt32 × UInt32 :=
      if t < 20 then ((r.b &&& r.c) ||| (~~~r.b &&& r.d), 0x5A827999)
      else if t < 40 then (r.b ^^^ r.c ^^^ r.d, 0x6ED9EBA1)
      else if t < 60 then ((r.b &&& r.c) ||| (r.b &&& r.d) ||| (r.c &&& r.d), 0x8F1BBCDC)
      else (r.b ^^^ r.c ^^^ r.d, 0xCA62C1D6)
    let w := window.getD 0 0
    let next := rotl32 (window.getD 13 0 ^^^ window.getD 8 0 ^^^ window.getD 2 0 ^^^ w) 1
    let a := rotl32 r.a 5 + f + r.e + k + w
    sha1Steps left (window.tail ++ [next]) ⟨a, r.a, rotl32 r.b 30, r.c, r.d⟩

/-- The 20 octets of the SHA-1 digest. -/
def sha1 (message : Bytes) : Bytes :=
  let start : Registers := ⟨0x67452301, 0xEFCDAB89, 0x98BADCFE, 0x10325476, 0xC3D2E1F0⟩
  let r := (blocks 64 (padded 64 8 Bytes.ofNat message)).foldl
    (fun r block => r.add (sha1Steps 80 (words32 block) r)) start
  [r.a, r.b, r.c, r.d, r.e].flatMap fun w => Bytes.ofNat 4 w.toNat

theorem length_sha1 (message : Bytes) : (sha1 message).length = 20 := by
  simp [sha1]

end PeerTrust.Digest
