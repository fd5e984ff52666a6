import PeerTrust.Text.Ranges

/-!
# What becomes of a character in a domain name

The Unicode standard's compatibility processing of domain names: a character stays, is left out,
gives way to others (capitals to small letters, wide forms to narrow ones), or may not occur. The
four characters on which the older and the newer rules for domain names differ all stay.
-/

namespace PeerTrust.Domain

open PeerTrust.Text (CharRanges)

/-- What becomes of a character in a domain name. -/
inductive Fate where
  | kept
  | dropped
  | replaced (others : List Char)
  | refused
  deriving DecidableEq, Repr

/-- The characters that may stand in a domain name as they are. -/
def keptChars : CharRanges := CharRanges.ofGaps
  ["0 41 1a 25 21 7 1 1 1 2 1 1 1 2 4 2 3 1 3 1 17 1 7 21 1 1 1 1 1 1 1 1 1 1 1 1 1 1 1 1 1 1 1 1",
   "1 1 1 1 1 1 1 1 1 1 1 1 1 1 1 1 1 1 1 1 1 1 1 1 1 1 1 1 1 1 3 1 1 2 1 1 1 1 1 1 3 1 1 1 1 1 1",
   "1 2 1 1 1 1 1 1 1 1 1 1 1 1 1 1 1 1 1 1 1 1 1 1 1 1 1 1 1 1 1 1 1 1 1 1 1 1 1 1 1 1 1 1 1 1 1",
   "2 1 1 1 1 1 1 1 2 1 1 1 2 1 3 2 4 1 2 1 3 3 2 1 2 1 1 1 1 1 2 1 1 2 1 1 2 1 3 1 1 1 2 3 1 7 a",
   "1 1 1 1 1 1 1 1 1 1 1 1 1 1 2 1 1 1 1 1 1 1 1 1 1 1 1 1 1 1 1 1 2 4 1 3 1 1 1 1 1 1 1 1 1 1 1",
   "1 1 1 1 1 1 1 1 1 1 1 1 1 1 1 1 1 1 1 1 1 1 1 1 1 1 1 1 1 1 1 1 1 1 1 1 1 1 1 1 1 1 1 1 1 1 1",
   "7 2 1 2 2 1 1 4 1 1 1 1 1 1 1 1 61 9 1f 6 2 5 5b 2 1 3 9 1 20 1 1 1 1 1 1 1 1 3 3 12 1 1b 23",
   "8 1 1 1 1 1 1 1 1 1 1 1 1 1 1 1 1 1 1 1 1 1 1 1 1 1 3 1 2 1 1 1 2 2 33 30 1 1 1 1 1 1 1 1 1 1",
   "1 1 1 1 1 1 1 1 1 1 1 1 1 1 1 1 1 1 1 1 1 1 1 9 1 1 1 1 1 1 1 1 1 1 1 1 1 1 1 1 1 1 1 1 1 1 1",
   "1 1 1 1 1 1 1 1 1 1 1 1 1 1 1 1 1 1 1 1 1 1 1 1 1 1 1 1 1 1 1 2 1 1 1 1 1 1 1 1 1 1 1 1 2 1 1",
   "1 1 1 1 1 1 1 1 1 1 1 1 1 1 1 1 1 1 1 1 1 1 1 1 1 1 1 1 1 1 1 1 1 1 1 1 1 1 1 1 1 1 1 1 1 1 1",
   "1 1 1 1 1 1 1 1 1 1 1 1 1 1 1 1 1 1 1 1 1 1 1 1 1 1 1 1 1 1 1 1 1 1 1 1 1 1 1 1 1 1 1 1 1 1 1",
   "29 2e 1 3 2 3 1 37 8 1b 4 6 11 16 1 58 4 64 1 30 2 3b 2 65 e 3b 2 31 2 f 1 1c 2 1 1 b 5 20 7",
   "4b 1 75 8 24 1 8 2 2 2 16 1 7 1 1 3 4 2 9 2 2 2 4 8 1 8 4 2 19 2 3 1 6 4 2 2 16 1 7 1 1 2 1 2",
   "2 2 1 1 5 4 2 2 3 3 1 a 1 9 11 a 3 1 9 1 3 1 16 1 7 1 2 1 5 2 a 1 3 1 3 2 1 f 4 2 c 7 7 1 3 1",
   "8 2 2 2 16 1 7 1 2 1 5 2 9 2 2 2 3 7 3 7 5 2 12 a 2 1 6 3 3 1 4 3 2 1 1 1 2 3 2 3 3 3 c 4 5 3",
   "3 1 4 2 1 6 1 e 15 5 d 1 3 1 17 1 10 2 9 1 3 1 4 7 2 1 3 1 2 2 4 2 a 7 16 1 3 1 17 1 a 1 5 2",
   "9 1 3 1 4 7 2 5 3 1 4 2 a 1 3 c d 1 3 1 33 1 3 1 6 4 10 2 1a 1 3 1 12 3 18 1 9 1 1 2 7 3 1 4",
   "6 1 1 1 8 6 a 2 3 c 32 1 7 4 1d 25 2 1 1 1 5 1 18 1 1 1 c 1 a 2 5 1 1 1 7 1 a 4 2 20 c 1 36 1",
   "4 1 4 1 4 1 4 1 4 1 c 1 3 4 2 1 1 5 7 1 11 1 4 1 4 1 4 1 4 1 4 1 c 1 3 1 f 1 d 25 a0 30 2c 1",
   "62 2 e8 1 4 2 7 1 1 1 4 2 29 1 4 2 21 1 4 2 7 1 1 1 4 2 f 1 39 1 4 2 43 2 20 3 1a 6 56 a 280",
   "1 1c 3 59 7 16 9 18 9 14 c d 1 3 1 2 c 34 2 28 2 a 6 a 6 b 5 a 6 59 7 2b 5 46 a 1f 1 c 4 c 4",
   "1 3 2a 2 5 b 2c 4 1a 6 b 3 3e 2 41 1 1d 2 b 6 a 6 e 2 2e 2 c 14 4d 1 a6 8 3c 3 f 3 33 a 1 35",
   "8 8 2b 5 2c 3 1 b 1 12 1 1c d 1 22 25 40 1 1 1 1 1 1 1 1 1 1 1 1 1 1 1 1 1 1 1 1 1 1 1 1 1 1",
   "1 1 1 1 1 1 1 1 1 1 1 1 1 1 1 1 1 1 1 1 1 1 1 1 1 1 1 1 1 1 1 1 1 1 1 1 1 1 1 1 1 1 1 1 1 1 1",
   "1 1 1 1 1 1 1 1 1 1 1 1 1 1 1 1 1 1 1 1 1 1 1 1 1 1 1 1 1 1 1 1 1 1 1 1 1 1 1 1 1 1 1 1 1 1 1",
   "1 1 1 1 1 1 1 1 1 1 1 1 1 1 1 1 1 1 1 1 1 1 1 1 1 1 1 1 1 5 2 2 1 1 1 1 1 1 1 1 1 1 1 1 1 1 1",
   "1 1 1 1 1 1 1 1 1 1 1 1 1 1 1 1 1 1 1 1 1 1 1 1 1 1 1 1 1 1 1 1 1 1 1 1 1 1 1 1 1 1 1 1 1 1 1",
   "1 1 1 1 1 1 1 1 1 1 1 1 1 1 1 1 1 1 1 1 1 1 1 1 1 1 1 1 1 1 1 1 1 1 1 9 8 6 a 8 8 8 8 6 a 8 8",
   "8 8 1 1 1 1 1 1 1 1 1 1 1 1 1 33 2 4 1 f 1 9 3 3 2 8 3 1 4 e 1 15 2 2 1 1 5 1 c 3 1 8 3 2 1 2",
   "4 1 1 1 8 3 d 1 7 41 8 1 19 e 21 13 1 3 1 b 1 2 2 5 2 3 1 1 1 1 1 1 1 4 1 b 1 6 4 5 6 30 3 1",
   "5 1 2 4 9c 2 1 2 f8 2 ff 16 b a0 521 1 67 3 65 1 97 2 8a 30 30 1 1 3 2 1 1 1 1 1 1 4 1 1 2 1",
   "6 5 1 1 1 1 1 1 1 1 1 1 1 1 1 1 1 1 1 1 1 1 1 1 1 1 1 1 1 1 1 1 1 1 1 1 1 1 1 1 1 1 1 1 1 1 1",
   "1 1 1 1 1 1 1 1 1 1 1 1 1 1 1 1 1 1 1 1 1 1 1 1 1 1 1 1 1 1 1 1 1 1 1 1 1 1 1 1 1 1 1 1 1 1 1",
   "1 1 1 1 1 1 8 1 1 1 4 1 1 5 2d 1 1 5 1 2 38 8 1 e 18 9 7 1 7 1 7 1 7 1 7 1 7 1 7 1 7 1 7e 22",
   "1a 1 4 1 53 10e 1 1 33 1 1 3 5 1 56 2 2 2 2 1 5f 6 2b 60 2 e 46 a 10 48 8 2f 1 180 708d 3 37",
   "9 15c 15 1 1 1 1 1 1 1 1 1 1 1 1 1 1 1 1 1 1 1 1 1 1 1 1 1 1 1 1 1 1 1 1 1 1 1 1 1 1 1 1 1 1",
   "1 1 13 1 1 1 1 1 1 1 1 1 1 1 1 1 1 1 1 1 1 1 1 1 1 1 1 1 1 1 1 2 5a 8 22 1 1 1 1 1 1 1 1 1 1",
   "1 1 1 3 1 1 1 1 1 1 1 1 1 1 1 1 1 1 1 1 1 1 1 1 1 1 1 1 1 1 1 1 1 1 1 1 1 1 1 1 1 1 1 1 1 1 1",
   "1 1 1 1 1 1 1 1 1 1 1 1 1 1 1 1 1 1 1 1 8 1 1 1 1 2 1 1 1 1 1 1 1 1 4 1 1 1 2 1 1 1 3 1 1 1 1",
   "1 1 1 1 1 1 1 1 1 1 1 1 1 1 1 1 5 1 5 1 1 1 1 1 1 1 1 1 1 1 1 1 1 1 4 1 1 1 2 1 1 1 1 1 1 1 1",
   "1 1 1 1 1 1 1 1a 2 2 33 3 a 6 38 8 46 8 c 6 74 b 1e 3 4e 1 b 4 21 1 37 9 e 2 a 2 67 18 1c a 6",
   "2 6 2 6 9 7 1 7 1 2c 4 9 1 2 54 2e 2 a 6 2ba4 c 17 4 31 2212 2 1 1 1 2 a 1 1 1 1 2 2 3 f4 1",
   "93 21 16b 12 40 2 36 8 2d 3 20 10 15 2 2c 1 18c c 1 1a 1 13 1 2 1 f 2 e 22 7b 5 3 4 2d 3 58 1",
   "d 3 1 2f 2e 82 1d 3 31 f 1c 4 24 9 1e 5 2b 5 1e 1 25 4 e 52 76 2 a 2e 24 4 28 8 34 b 1 27 b 1",
   "f 1 7 1 2 3 34 c 137 9 16 a 8 18 1 7f 6 2 1 1 2c 1 2 3 1 2 17 1 48 8 9 30 13 1 2 5 21 3 1b 5",
   "1b 26 38 4 14 2 32 1 2 5 8 1 3 1 1d 2 3 4 a 7 9 7 40 20 27 4 c 9 36 3 1d 2 1b 5 1a 7 4 c 7 50",
   "49 77 33 7 2e 8 a 6 10 19 1d 8 2 d0 1f 1 2a 1 3 2 2 10 6 8 9 21 2e 8 2a 16 1a 26 1c 14 17 9",
   "4e 4 24 9 3e 1 5 d 19 7 a 6 35 1 12 8 27 9 60 1 14 b 12 1 2f 3e 7 1 1 1 4 1 f 1 b 6 3b 5 a 6",
   "4 1 8 2 2 2 16 1 7 1 2 1 5 1 a 2 2 2 3 2 1 6 1 5 7 2 7 3 5 b a 1 1 2 1 1 26 1 a 1 1 2 1 1 4 1",
   "a 1 2 8 2 1d 5c 1 5 1e 48 8 a a6 36 2 26 22 45 b a 6 d 13 3a 6 a 6 14 1c 1b 2 f 4 17 b9 3c 84",
   "33 c 8 2 1 2 8 1 2 1 1e 1 2 2 c 9 a 46 8 2 2e 2 b 1b 48 8 53 d 49 7 a 56 8 58 22 e a 6 9 1 2d",
   "1 e a 1d 3 20 2 16 1 e 49 7 1 2 1 2c 3 1 1 2 1 9 8 a 6 6 1 2 1 25 1 2 1 6 7 a 6 2c 4 a f6 19",
   "7 11 1 29 3 1d 55 1 f 32 d 39b 66 6f 1 5 b c4 a4c 63 d 430 10 16 a f9b 5 247 1ab9 3a 6c6 239",
   "7 1f 1 a 4 51 1 a 6 1e 2 6 a 46 a a 1 7 1 15 5 13 1b0 3a e6 3b 20 19 2c 4b 4 39 7 11 40 5 b 7",
   "9 1cd6 29 20 61 73 21fd 4 1 7 1 2 1 123 f 1 1d 3 2 1 e 4 8 18c 904 6b 5 d 3 9 7 a 2 4 f60 d6",
   "24 3 3 1b4 6 17 f 11 f 2e 2 17 9 74 3c f6 a 27 2 35 7 e 8 40 6 2a 15 46 7a 14 c 14 c 57 9 19",
   "487 28c f 5 1 f 450 1f 6 6 d5 7 1 11 2 7 1 2 1 5 64 1 70 2d 3 e 2 a 4 2 140 1f 11 3a 5 1 1d0",
   "2a d6 2b 4 1 c0 1f 1 16 8 2 e0 7 1 4 1 2 1 f 1 c5 2 10 4b 2a 4 a 4 2 311 44 4c 3d 1b2 2 10e",
   "2c 4 64 c f 2 f 1 f 1 25 15 5 1f 1 20 1a 3 23 1 1d 38 1a 60 6 9a 3d9 3 11 3 d 3 da 6 c 4 1 f",
   "c 4 38 8 a 6 28 8 1e 2 c 4 2 e 9 27 158 8 e 2 d 3 b 3 39 1 1 4 10 2 c 4 a 7 93 1 5c a 1 405",
   "a6e0 20 111e 2 168e 2 1d31 f 26e 11a2 134b 5 212a"]

/-- The characters that are left out of a domain name. -/
def droppedChars : CharRanges := CharRanges.ofGaps
  ["ad 1 2a1 1 e0f 2 653 2 55 5 7fb 1 54 5 5 6 10f4 1 cc9b 10 ef 1 a0 1 bcff 4 14cf 8 c2f85 f0"]

/-- Characters at a regular distance, each of which gives way to one other, also at a regular
distance. -/
structure Run where
  first : Nat
  count : Nat
  target : Nat
  step : Nat
  targetStep : Nat

/-- What a character in the run gives way to. -/
def Run.replace? (r : Run) (c : Nat) : Option Nat :=
  let place := (c - r.first) / r.step
  if r.first ≤ c ∧ place < r.count ∧ (c - r.first) % r.step = 0 then
    some (r.target + place * r.targetStep)
  else none

/-- Runs from their table: the distance from the first character of the run before, the count, the
first target, and the two steps as digits of one number. -/
def runsFrom : (start : Nat) → List Nat → List Run
  | start, gap :: count :: target :: steps :: rest =>
    ⟨start + gap, count, target, steps / 16, steps % 16⟩ :: runsFrom (start + gap) rest
  | _, _ => []

/-- The characters that give way to one other. -/
def runs : List Run := runsFrom 0 <| List.flatMap Hex.numbers
  ["41 1a 61 11 5f 1 20 11 a 1 61 11 8 2 32 11 3 1 3bc 11 4 1 31 11 1 1 6f 11 6 17 e0 11 18 7 f8",
   "11 28 18 101 22 34 2 135 22 5 3 13a 22 8 4 142 22 9 17 14b 22 2e 1 ff 11 1 3 17a 22 6 1 73 11",
   "2 1 253 11 1 2 183 22 4 1 254 11 1 1 188 11 2 2 256 11 2 1 18c 11 3 1 1dd 11 1 2 259 12 2 1",
   "192 11 2 1 260 11 1 1 263 11 2 1 269 11 1 1 268 11 1 1 199 11 4 1 26f 11 1 1 272 11 2 1 275",
   "11 1 3 1a1 22 6 1 280 11 1 1 1a8 11 2 1 283 11 3 1 1ad 11 2 1 288 11 1 1 1b0 11 2 2 28a 11 2",
   "2 1b4 22 4 1 292 11 1 1 1b9 11 4 1 1bd 11 11 8 1ce 22 11 9 1df 22 16 1 1f5 11 2 1 195 11 1 1",
   "1bf 11 1 14 1f9 22 28 1 19e 11 2 9 223 22 18 1 2c65 11 1 1 23c 11 2 1 19a 11 1 1 2c66 11 3 1",
   "242 11 2 1 180 11 1 1 289 11 1 1 28c 11 1 5 247 22 6a 2 68 22 1 1 266 11 2 1 72 11 1 2 279 12",
   "2 1 281 11 1 2 77 12 29 1 263 11 1 1 6c 11 1 1 73 11 1 1 78 11 1 1 295 11 5c 2 300 11 3 1 313",
   "11 2 1 3b9 11 2b 2 371 22 4 1 2b9 11 2 1 377 11 8 1 3b 11 1 1 3f3 11 7 2 3ac 21 1 1 b7 11 2 2",
   "3ae 11 3 2 3cc 21 3 1 3ce 11 2 11 3b1 11 12 9 3c3 11 2c 1 3d7 11 1 1 3b2 11 1 1 3b8 11 1 1",
   "3c5 11 1 1 3cd 11 1 1 3cb 11 1 1 3c6 11 1 1 3c0 11 2 c 3d9 22 18 1 3ba 11 1 2 3c1 12 3 1 3b8",
   "11 1 1 3b5 11 2 1 3f8 11 2 1 3c3 11 1 1 3fb 11 3 3 37b 11 3 10 450 11 10 20 430 11 50 11 461",
   "22 2a 1b 48b 22 36 1 4cf 11 1 7 4c2 22 f 30 4d1 22 61 26 561 11 9db 1 f0b 11 194 26 2d00 11",
   "27 1 2d27 11 6 1 2d2d 11 2f 1 10dc 11 2fc 6 13f0 11 888 2 432 12 2 1 43e 11 1 2 441 11 2 1",
   "442 11 1 1 44a 11 1 1 463 11 1 1 a64b 11 1 1 1c8a 11 7 2b 10d0 11 2d 3 10fd 11 6f 2 61 21 1 1",
   "e6 11 3 2 64 11 2 1 1dd 11 1 8 67 11 9 2 6f 21 1 1 223 11 2 2 72 12 2 2 75 12 2 1 61 11 1 2",
   "250 11 2 1 1d02 11 1 2 62 12 2 1 65 11 1 2 259 12 2 1 25c 11 1 1 67 11 2 2 6b 12 2 1 14b 11 1",
   "1 6f 11 1 1 254 11 1 2 1d16 11 2 1 70 11 1 2 74 11 2 1 1d1d 11 1 1 26f 11 1 1 76 11 1 1 1d25",
   "11 1 3 3b2 11 3 2 3c6 11 2 1 69 11 1 1 72 11 1 2 75 11 2 2 3b2 11 2 1 3c1 11 1 2 3c6 11 f 1",
   "43d 11 23 1 252 11 1 1 63 11 1 1 255 11 1 1 f0 11 1 1 25c 11 1 1 66 11 1 2 25f 12 2 1 265 11",
   "1 3 268 11 3 1 1d7b 11 1 1 29d 11 1 1 26d 11 1 1 1d85 11 1 1 29f 11 1 2 271 21 1 1 270 11 2 3",
   "273 11 3 1 278 11 1 2 282 11 2 1 1ab 11 1 2 289 11 2 1 1d1c 11 1 2 28b 11 2 1 7a 11 1 3 290",
   "11 3 1 3b8 11 41 4b 1e01 22 9b 1 1e61 11 3 1 df 11 2 30 1ea1 22 68 8 1f00 11 10 6 1f10 11 10",
   "8 1f20 11 10 8 1f30 11 10 6 1f40 11 11 4 1f51 22 f 8 1f60 11 9 4 3ac 21 8 3 3cc 21 3f 2 1fb0",
   "11 2 1 1f70 11 1 1 3ac 11 3 1 3b9 11 a 2 1f72 22 1 2 3ad 21 a 1 390 11 5 2 1fd0 11 2 1 1f76",
   "11 1 1 3af 11 8 1 3b0 11 5 2 1fe0 11 2 1 1f7a 11 1 1 3cd 11 1 1 1fe5 11 3 1 60 11 9 1 1f78 11",
   "1 2 3cc 22 1 1 1f7c 11 6 b 20 10 11 1 2010 11 1e 1 20 11 30 1 20 11 11 1 30 11 1 1 69 11 3 6",
   "34 11 6 1 2b 11 1 1 2212 11 1 1 3d 11 1 2 28 11 2 1 6e 11 1 a 30 11 a 1 2b 11 1 1 2212 11 1 1",
   "3d 11 1 2 28 11 3 1 61 11 1 1 65 11 1 1 6f 11 1 1 78 11 1 1 259 11 1 1 68 11 1 4 6b 11 4 1 70",
   "11 1 2 73 11 67 1 63 11 5 1 25b 11 3 2 67 11 2 3 68 10 3 1 127 11 1 2 69 10 2 2 6c 10 3 1 6e",
   "11 4 3 70 11 3 2 72 10 8 1 7a 11 2 1 3c9 11 2 1 7a 11 2 1 6b 11 1 1 e5 11 1 2 62 11 3 2 65 10",
   "2 1 66 11 1 1 214e 11 1 2 6d 12 2 4 5d0 11 4 1 69 11 3 1 3c0 11 1 2 3b3 10 2 1 3c0 11 1 1",
   "2211 11 5 2 64 10 2 1 65 11 1 2 69 11 18 1 69 11 4 1 76 11 5 1 78 11 3 1 6c 11 1 2 63 11 2 1",
   "6d 11 1 1 69 11 4 1 76 11 5 1 78 11 3 1 6c 11 1 2 63 11 2 1 6d 11 4 1 2184 11 1a6 2 3008 11",
   "137 9 31 11 56 1a 61 11 1a 1a 61 11 1a 1 30 11 716 30 2c30 11 60 1 2c61 11 2 1 26b 11 1 1",
   "1d7d 11 1 1 27d 11 3 3 2c68 22 6 1 251 11 1 1 271 11 1 2 250 12 3 1 2c73 11 3 1 2c76 11 7 1",
   "6a 11 1 1 76 11 1 2 23f 11 2 32 2c81 22 6b 2 2cec 22 7 1 2cf3 11 7d 1 2d61 11 130 1 6bcd 11",
   "54 1 9f9f 11 d 1 4e00 11 1 1 4e28 11 1 1 4e36 11 1 1 4e3f 11 1 1 4e59 11 1 1 4e85 11 1 1 4e8c",
   "11 1 1 4ea0 11 1 1 4eba 11 1 1 513f 11 1 1 5165 11 1 1 516b 11 1 1 5182 11 1 1 5196 11 1 1",
   "51ab 11 1 1 51e0 11 1 1 51f5 11 1 1 5200 11 1 1 529b 11 1 1 52f9 11 1 1 5315 11 1 1 531a 11 1",
   "1 5338 11 1 1 5341 11 1 1 535c 11 1 1 5369 11 1 1 5382 11 1 1 53b6 11 1 1 53c8 11 1 1 53e3 11",
   "1 1 56d7 11 1 1 571f 11 1 1 58eb 11 1 1 5902 11 1 1 590a 11 1 1 5915 11 1 1 5927 11 1 1 5973",
   "11 1 1 5b50 11 1 1 5b80 11 1 1 5bf8 11 1 1 5c0f 11 1 1 5c22 11 1 1 5c38 11 1 1 5c6e 11 1 1",
   "5c71 11 1 1 5ddb 11 1 1 5de5 11 1 1 5df1 11 1 1 5dfe 11 1 1 5e72 11 1 1 5e7a 11 1 1 5e7f 11 1",
   "1 5ef4 11 1 1 5efe 11 1 1 5f0b 11 1 1 5f13 11 1 1 5f50 11 1 1 5f61 11 1 1 5f73 11 1 1 5fc3 11",
   "1 1 6208 11 1 1 6236 11 1 1 624b 11 1 1 652f 11 1 1 6534 11 1 1 6587 11 1 1 6597 11 1 1 65a4",
   "11 1 1 65b9 11 1 1 65e0 11 1 1 65e5 11 1 1 66f0 11 1 1 6708 11 1 1 6728 11 1 1 6b20 11 1 1",
   "6b62 11 1 1 6b79 11 1 1 6bb3 11 1 1 6bcb 11 1 1 6bd4 11 1 1 6bdb 11 1 1 6c0f 11 1 1 6c14 11 1",
   "1 6c34 11 1 1 706b 11 1 1 722a 11 1 1 7236 11 1 1 723b 11 1 1 723f 11 1 1 7247 11 1 2 7259 12",
   "2 1 72ac 11 1 1 7384 11 1 1 7389 11 1 1 74dc 11 1 1 74e6 11 1 1 7518 11 1 1 751f 11 1 1 7528",
   "11 1 1 7530 11 1 1 758b 11 1 1 7592 11 1 1 7676 11 1 1 767d 11 1 1 76ae 11 1 1 76bf 11 1 1",
   "76ee 11 1 1 77db 11 1 1 77e2 11 1 1 77f3 11 1 1 793a 11 1 1 79b8 11 1 1 79be 11 1 1 7a74 11 1",
   "1 7acb 11 1 1 7af9 11 1 1 7c73 11 1 1 7cf8 11 1 1 7f36 11 1 1 7f51 11 1 1 7f8a 11 1 1 7fbd 11",
   "1 1 8001 11 1 1 800c 11 1 1 8012 11 1 1 8033 11 1 1 807f 11 1 1 8089 11 1 1 81e3 11 1 1 81ea",
   "11 1 1 81f3 11 1 1 81fc 11 1 1 820c 11 1 1 821b 11 1 1 821f 11 1 1 826e 11 1 1 8272 11 1 1",
   "8278 11 1 1 864d 11 1 1 866b 11 1 1 8840 11 1 1 884c 11 1 1 8863 11 1 1 897e 11 1 1 898b 11 1",
   "1 89d2 11 1 1 8a00 11 1 1 8c37 11 1 1 8c46 11 1 1 8c55 11 1 1 8c78 11 1 1 8c9d 11 1 1 8d64 11",
   "1 1 8d70 11 1 1 8db3 11 1 1 8eab 11 1 1 8eca 11 1 1 8f9b 11 1 1 8fb0 11 1 1 8fb5 11 1 1 9091",
   "11 1 1 9149 11 1 1 91c6 11 1 1 91cc 11 1 1 91d1 11 1 1 9577 11 1 1 9580 11 1 1 961c 11 1 1",
   "96b6 11 1 1 96b9 11 1 1 96e8 11 1 1 9751 11 1 1 975e 11 1 1 9762 11 1 1 9769 11 1 1 97cb 11 1",
   "1 97ed 11 1 1 97f3 11 1 1 9801 11 1 1 98a8 11 1 1 98db 11 1 1 98df 11 1 1 9996 11 1 1 9999 11",
   "1 1 99ac 11 1 1 9aa8 11 1 1 9ad8 11 1 1 9adf 11 1 1 9b25 11 1 1 9b2f 11 1 1 9b32 11 1 1 9b3c",
   "11 1 1 9b5a 11 1 1 9ce5 11 1 1 9e75 11 1 1 9e7f 11 1 1 9ea5 11 1 1 9ebb 11 1 1 9ec3 11 1 1",
   "9ecd 11 1 1 9ed1 11 1 1 9ef9 11 1 1 9efd 11 1 1 9f0e 11 1 1 9f13 11 1 1 9f20 11 1 1 9f3b 11 1",
   "1 9f4a 11 1 1 9f52 11 1 1 9f8d 11 1 1 9f9c 11 1 1 9fa0 11 2b 1 20 11 2 1 2e 11 34 1 3012 11 2",
   "1 5341 11 1 2 5344 11 f8 2 1100 11 2 2 11aa 22 1 1 1102 11 2 1 11ad 11 1 3 1103 11 3 6 11b0",
   "11 6 1 111a 11 1 3 1106 11 3 1 1121 11 1 a 1109 11 a 15 1161 11 16 2 1114 11 2 2 11c7 11 2 2",
   "11cc 12 2 1 11d3 11 1 2 11d7 12 2 1 111c 11 1 2 11dd 12 2 2 111d 11 2 2 1120 12 2 1 1123 11 1",
   "3 1127 12 3 4 112c 11 4 1 1132 11 1 1 1136 11 1 1 1140 11 1 1 1147 11 1 1 114c 11 1 2 11f1 11",
   "2 3 1157 11 3 2 1184 11 2 1 1188 11 1 2 1191 11 2 1 1194 11 1 1 119e 11 1 1 11a1 11 4 1 4e00",
   "11 1 1 4e8c 11 1 3 4e09 21 1 1 56db 11 2 1 4e2d 11 2 1 7532 11 1 1 4e59 11 1 1 4e19 11 1 1",
   "4e01 11 1 1 5929 11 1 1 5730 11 1 1 4eba 11 a5 1 554f 11 1 1 5e7c 11 1 1 6587 11 1 1 7b8f 11",
   "19 2 1100 12 2 2 1103 12 2 2 1106 11 2 2 1109 12 2 2 110c 12 2 4 110f 11 4 1 ac00 11 1 1 b098",
   "11 1 1 b2e4 11 1 1 b77c 11 1 1 b9c8 11 1 1 bc14 11 1 1 c0ac 11 1 1 c544 11 1 1 c790 11 1 1",
   "cc28 11 1 1 ce74 11 1 1 d0c0 11 1 1 d30c 11 1 1 d558 11 3 1 c6b0 11 2 1 4e00 11 1 1 4e8c 11 1",
   "1 4e09 11 1 1 56db 11 1 1 4e94 11 1 1 516d 11 1 1 4e03 11 1 1 516b 11 1 1 4e5d 11 1 1 5341 11",
   "1 1 6708 11 1 1 706b 11 1 1 6c34 11 1 1 6728 11 1 1 91d1 11 1 1 571f 11 1 1 65e5 11 1 1 682a",
   "11 1 1 6709 11 1 1 793e 11 1 1 540d 11 1 1 7279 11 1 1 8ca1 11 1 1 795d 11 1 1 52b4 11 1 1",
   "79d8 11 1 1 7537 11 1 1 5973 11 1 1 9069 11 1 1 512a 11 1 1 5370 11 1 1 6ce8 11 1 1 9805 11 1",
   "1 4f11 11 1 1 5199 11 1 1 6b63 11 1 2 4e0a 21 1 1 4e2d 11 2 1 5de6 11 1 1 53f3 11 1 1 533b 11",
   "1 1 5b97 11 1 1 5b66 11 1 1 76e3 11 1 1 4f01 11 1 1 8cc7 11 1 1 5354 11 1 1 591c 11 20 5 30a2",
   "12 5 c 30ab 12 c 4 30c4 12 4 5 30cb 11 5 1 30d2 11 1 1 30d5 11 1 1 30d8 11 1 1 30db 11 1 5",
   "30de 11 5 3 30e4 12 3 5 30e9 11 5 4 30ef 11 7345 17 a641 22 40 e a681 22 1c 2 44a 12 86 7",
   "a723 22 10 1f a733 22 3e 1 a76f 11 9 2 a77a 22 4 1 1d79 11 1 5 a77f 22 d 1 a78c 11 2 1 265 11",
   "3 2 a791 22 6 a a797 22 14 1 266 11 1 1 25c 11 1 1 261 11 1 1 26c 11 1 1 26a 11 2 1 29e 11 1",
   "1 287 11 1 1 29d 11 1 1 ab53 11 1 8 a7b5 22 10 1 a794 11 1 1 282 11 1 1 1d8e 11 1 2 a7c8 22 4",
   "1 264 11 1 8 a7cd 22 10 1 19b 11 15 1 73 11 1 1 63 11 1 1 66 11 1 1 71 11 1 1 a7f6 11 3 1 127",
   "11 1 1 153 11 363 1 a727 11 1 1 ab37 11 1 1 26b 11 1 1 ab52 11 a 1 28d 11 7 50 13a0 11 4d90 1",
   "8c48 11 1 1 66f4 11 1 1 8eca 11 1 1 8cc8 11 1 1 6ed1 11 1 1 4e32 11 1 1 53e5 11 1 2 9f9c 10 2",
   "1 5951 11 1 1 91d1 11 1 1 5587 11 1 1 5948 11 1 1 61f6 11 1 1 7669 11 1 1 7f85 11 1 1 863f 11",
   "1 1 87ba 11 1 1 88f8 11 1 1 908f 11 1 1 6a02 11 1 1 6d1b 11 1 1 70d9 11 1 1 73de 11 1 1 843d",
   "11 1 1 916a 11 1 1 99f1 11 1 1 4e82 11 1 1 5375 11 1 1 6b04 11 1 1 721b 11 1 1 862d 11 1 1",
   "9e1e 11 1 1 5d50 11 1 1 6feb 11 1 1 85cd 11 1 1 8964 11 1 1 62c9 11 1 1 81d8 11 1 1 881f 11 1",
   "1 5eca 11 1 1 6717 11 1 1 6d6a 11 1 1 72fc 11 1 1 90ce 11 1 1 4f86 11 1 1 51b7 11 1 1 52de 11",
   "1 1 64c4 11 1 1 6ad3 11 1 1 7210 11 1 1 76e7 11 1 1 8001 11 1 1 8606 11 1 1 865c 11 1 1 8def",
   "11 1 1 9732 11 1 1 9b6f 11 1 1 9dfa 11 1 1 788c 11 1 1 797f 11 1 1 7da0 11 1 1 83c9 11 1 1",
   "9304 11 1 1 9e7f 11 1 1 8ad6 11 1 1 58df 11 1 1 5f04 11 1 1 7c60 11 1 1 807e 11 1 1 7262 11 1",
   "1 78ca 11 1 1 8cc2 11 1 1 96f7 11 1 1 58d8 11 1 1 5c62 11 1 1 6a13 11 1 1 6dda 11 1 1 6f0f 11",
   "1 1 7d2f 11 1 1 7e37 11 1 1 964b 11 1 1 52d2 11 1 1 808b 11 1 1 51dc 11 1 1 51cc 11 1 1 7a1c",
   "11 1 1 7dbe 11 1 1 83f1 11 1 1 9675 11 1 1 8b80 11 1 1 62cf 11 1 1 6a02 11 1 1 8afe 11 1 1",
   "4e39 11 1 1 5be7 11 1 1 6012 11 1 1 7387 11 1 1 7570 11 1 1 5317 11 1 1 78fb 11 1 1 4fbf 11 1",
   "1 5fa9 11 1 1 4e0d 11 1 1 6ccc 11 1 1 6578 11 1 1 7d22 11 1 1 53c3 11 1 1 585e 11 1 1 7701 11",
   "1 1 8449 11 1 1 8aaa 11 1 1 6bba 11 1 1 8fb0 11 1 1 6c88 11 1 1 62fe 11 1 1 82e5 11 1 1 63a0",
   "11 1 1 7565 11 1 1 4eae 11 1 1 5169 11 1 1 51c9 11 1 1 6881 11 1 1 7ce7 11 1 1 826f 11 1 1",
   "8ad2 11 1 1 91cf 11 1 1 52f5 11 1 1 5442 11 1 1 5973 11 1 1 5eec 11 1 1 65c5 11 1 1 6ffe 11 1",
   "1 792a 11 1 1 95ad 11 1 1 9a6a 11 1 1 9e97 11 1 1 9ece 11 1 1 529b 11 1 1 66c6 11 1 1 6b77 11",
   "1 1 8f62 11 1 1 5e74 11 1 1 6190 11 1 1 6200 11 1 1 649a 11 1 1 6f23 11 1 1 7149 11 1 1 7489",
   "11 1 1 79ca 11 1 1 7df4 11 1 1 806f 11 1 1 8f26 11 1 1 84ee 11 1 1 9023 11 1 1 934a 11 1 1",
   "5217 11 1 1 52a3 11 1 1 54bd 11 1 1 70c8 11 1 1 88c2 11 1 1 8aaa 11 1 1 5ec9 11 1 1 5ff5 11 1",
   "1 637b 11 1 1 6bae 11 1 1 7c3e 11 1 1 7375 11 1 1 4ee4 11 1 1 56f9 11 1 1 5be7 11 1 1 5dba 11",
   "1 1 601c 11 1 1 73b2 11 1 1 7469 11 1 1 7f9a 11 1 1 8046 11 1 1 9234 11 1 1 96f6 11 1 1 9748",
   "11 1 1 9818 11 1 1 4f8b 11 1 1 79ae 11 1 1 91b4 11 1 1 96b8 11 1 1 60e1 11 1 1 4e86 11 1 1",
   "50da 11 1 1 5bee 11 1 1 5c3f 11 1 1 6599 11 1 1 6a02 11 1 1 71ce 11 1 1 7642 11 1 1 84fc 11 1",
   "1 907c 11 1 1 9f8d 11 1 1 6688 11 1 1 962e 11 1 1 5289 11 1 1 677b 11 1 1 67f3 11 1 1 6d41 11",
   "1 1 6e9c 11 1 1 7409 11 1 1 7559 11 1 1 786b 11 1 1 7d10 11 1 1 985e 11 1 1 516d 11 1 1 622e",
   "11 1 1 9678 11 1 1 502b 11 1 1 5d19 11 1 1 6dea 11 1 1 8f2a 11 1 1 5f8b 11 1 1 6144 11 1 1",
   "6817 11 1 1 7387 11 1 1 9686 11 1 1 5229 11 1 1 540f 11 1 1 5c65 11 1 1 6613 11 1 1 674e 11 1",
   "1 68a8 11 1 1 6ce5 11 1 1 7406 11 1 1 75e2 11 1 1 7f79 11 1 1 88cf 11 1 1 88e1 11 1 1 91cc 11",
   "1 1 96e2 11 1 1 533f 11 1 1 6eba 11 1 1 541d 11 1 1 71d0 11 1 1 7498 11 1 1 85fa 11 1 1 96a3",
   "11 1 1 9c57 11 1 1 9e9f 11 1 1 6797 11 1 1 6dcb 11 1 1 81e8 11 1 1 7acb 11 1 1 7b20 11 1 1",
   "7c92 11 1 1 72c0 11 1 1 7099 11 1 1 8b58 11 1 1 4ec0 11 1 1 8336 11 1 1 523a 11 1 1 5207 11 1",
   "1 5ea6 11 1 1 62d3 11 1 1 7cd6 11 1 1 5b85 11 1 1 6d1e 11 1 1 66b4 11 1 1 8f3b 11 1 1 884c 11",
   "1 1 964d 11 1 1 898b 11 1 1 5ed3 11 1 1 5140 11 1 1 55c0 11 3 1 585a 11 2 1 6674 11 3 1 51de",
   "11 1 1 732a 11 1 1 76ca 11 1 1 793c 11 1 1 795e 11 1 1 7965 11 1 1 798f 11 1 1 9756 11 1 1",
   "7cbe 11 1 1 7fbd 11 2 1 8612 11 2 1 8af8 11 3 1 9038 11 1 1 90fd 11 4 1 98ef 11 1 1 98fc 11 1",
   "1 9928 11 1 1 9db4 11 1 1 90de 11 1 1 96b7 11 1 1 4fae 11 1 1 50e7 11 1 1 514d 11 1 1 52c9 11",
   "1 1 52e4 11 1 1 5351 11 1 1 559d 11 1 1 5606 11 1 1 5668 11 1 1 5840 11 1 1 58a8 11 1 1 5c64",
   "11 1 1 5c6e 11 1 1 6094 11 1 1 6168 11 1 1 618e 11 1 1 61f2 11 1 1 654f 11 1 1 65e2 11 1 1",
   "6691 11 1 1 6885 11 1 1 6d77 11 1 1 6e1a 11 1 1 6f22 11 1 1 716e 11 1 1 722b 11 1 1 7422 11 1",
   "1 7891 11 1 1 793e 11 1 1 7949 11 1 1 7948 11 1 1 7950 11 1 1 7956 11 1 1 795d 11 1 2 798d 11",
   "2 1 7a40 11 1 1 7a81 11 1 1 7bc0 11 1 1 7df4 11 1 1 7e09 11 1 1 7e41 11 1 1 7f72 11 1 1 8005",
   "11 1 1 81ed 11 1 2 8279 10 2 1 8457 11 1 1 8910 11 1 1 8996 11 1 1 8b01 11 1 1 8b39 11 1 1",
   "8cd3 11 1 1 8d08 11 1 1 8fb6 11 1 1 9038 11 1 1 96e3 11 1 1 97ff 11 1 1 983b 11 1 1 6075 11 1",
   "1 242ee 11 1 1 8218 11 3 1 4e26 11 1 1 51b5 11 1 1 5168 11 1 1 4f80 11 1 1 5145 11 1 1 5180",
   "11 1 1 52c7 11 1 1 52fa 11 1 1 559d 11 1 1 5555 11 1 1 5599 11 1 1 55e2 11 1 1 585a 11 1 1",
   "58b3 11 1 1 5944 11 1 1 5954 11 1 1 5a62 11 1 1 5b28 11 1 1 5ed2 11 1 1 5ed9 11 1 1 5f69 11 1",
   "1 5fad 11 1 1 60d8 11 1 1 614e 11 1 1 6108 11 1 1 618e 11 1 1 6160 11 1 1 61f2 11 1 1 6234 11",
   "1 1 63c4 11 1 1 641c 11 1 1 6452 11 1 1 6556 11 1 1 6674 11 1 1 6717 11 1 1 671b 11 1 1 6756",
   "11 1 1 6b79 11 1 1 6bba 11 1 1 6d41 11 1 1 6edb 11 1 1 6ecb 11 1 1 6f22 11 1 1 701e 11 1 1",
   "716e 11 1 1 77a7 11 1 1 7235 11 1 1 72af 11 1 1 732a 11 1 1 7471 11 1 1 7506 11 1 1 753b 11 1",
   "2 761d 12 2 1 76ca 11 1 1 76db 11 1 1 76f4 11 1 1 774a 11 1 1 7740 11 1 1 78cc 11 1 1 7ab1 11",
   "1 1 7bc0 11 1 1 7c7b 11 1 1 7d5b 11 1 1 7df4 11 1 1 7f3e 11 1 1 8005 11 1 1 8352 11 1 1 83ef",
   "11 1 1 8779 11 1 1 8941 11 1 1 8986 11 1 1 8996 11 1 1 8abf 11 1 1 8af8 11 1 1 8acb 11 1 1",
   "8b01 11 1 1 8afe 11 1 1 8aed 11 1 1 8b39 11 1 1 8b8a 11 1 1 8d08 11 1 1 8f38 11 1 1 9072 11 1",
   "1 9199 11 1 1 9276 11 1 1 967c 11 1 1 96e3 11 1 1 9756 11 1 1 97db 11 1 1 97ff 11 1 1 980b 11",
   "1 1 983b 11 1 1 9b12 11 1 1 9f9c 11 1 1 2284a 11 1 1 22844 11 1 1 233d5 11 1 1 3b9d 11 1 1",
   "4018 11 1 1 4039 11 1 1 25249 11 1 1 25cd0 11 1 1 27ed3 11 1 1 9f43 11 1 1 9f8e 11 47 1 5e2",
   "11 1 1 5d0 11 1 2 5d3 11 2 3 5db 11 3 2 5e8 12 2 1 2b 11 27 2 671 10 2 4 67b 10 4 4 67e 10 4",
   "4 680 10 4 4 67a 10 4 4 67f 10 4 4 679 10 4 4 6a4 10 4 4 6a6 10 4 4 684 10 4 4 683 10 4 4 686",
   "10 4 4 687 10 4 2 68d 10 2 2 68c 10 2 2 68e 10 2 2 688 10 2 2 698 10 2 2 691 10 2 4 6a9 10 4",
   "4 6af 10 4 4 6b3 10 4 4 6b1 10 4 2 6ba 10 2 4 6bb 10 4 2 6c0 10 2 4 6c1 10 4 4 6be 10 4 2 6d2",
   "10 2 2 6d3 10 23 4 6ad 10 4 2 6c7 10 2 2 6c6 10 2 2 6c8 10 3 2 6cb 10 2 2 6c5 10 2 2 6c9 10 2",
   "4 6d0 10 4 2 649 10 14 4 6cc 10 214 1 2c 11 1 1 3001 11 2 2 3a 11 2 1 21 11 1 1 3f 11 1 2",
   "3016 11 1a 1 2014 11 1 1 2013 11 1 2 5f 10 2 2 28 11 2 2 7b 12 2 2 3014 11 2 2 3010 11 2 2",
   "300a 11 2 2 3008 11 2 4 300c 11 6 2 5b 12 6 3 5f 10 3 1 2c 11 1 1 3001 11 3 1 3b 11 1 1 3a 11",
   "1 1 3f 11 1 1 21 11 1 1 2014 11 1 2 28 11 2 2 7b 12 2 2 3014 11 2 1 23 11 1 1 26 11 1 2 2a 11",
   "2 1 2d 11 1 2 3c 12 2 1 3d 11 2 1 5c 11 1 2 24 11 2 1 40 11 15 6 621 21 1 5 622 21 a 3 626 21",
   "1 3 626 21 5 3 628 21 1 3 628 21 5 2 62a 10 2 4 62b 10 4 4 62c 10 4 4 62d 10 4 4 62e 10 4 5",
   "62f 21 1 5 62f 21 9 2 633 10 2 4 634 10 4 4 635 10 4 4 636 10 4 4 637 10 4 4 638 10 4 4 639",
   "10 4 4 63a 10 4 4 641 10 4 4 642 10 4 4 643 10 4 4 644 10 4 4 645 10 4 4 646 10 4 4 647 10 4",
   "3 648 21 1 3 648 21 5 2 64a 10 e 20 21 11 20 1a 61 11 1a 24 5b 11 24 2 2985 11 2 1 2e 11 1 2",
   "300c 11 2 1 3001 11 1 1 30fb 11 1 1 30f2 11 1 5 30a1 12 5 3 30e3 12 3 1 30c3 11 1 1 30fc 11 1",
   "5 30a2 12 5 c 30ab 12 c 4 30c4 12 4 5 30cb 11 5 1 30d2 11 1 1 30d5 11 1 1 30d8 11 1 1 30db 11",
   "1 5 30de 11 5 3 30e4 12 3 5 30e9 11 5 1 30ef 11 1 1 30f3 11 1 2 3099 11 3 2 1100 11 2 2 11aa",
   "22 1 1 1102 11 2 1 11ad 11 1 3 1103 11 3 6 11b0 11 6 1 111a 11 1 3 1106 11 3 1 1121 11 1 a",
   "1109 11 d 6 1161 11 8 6 1167 11 8 6 116d 11 8 3 1173 11 6 2 a2 11 2 1 ac 11 2 1 a6 11 1 1 a5",
   "11 1 1 20a9 11 2 1 2502 11 1 4 2190 11 4 1 25a0 11 1 1 25cb 11 412 28 10428 11 b0 24 104d8 11",
   "c0 13 10597 22 1 5 10598 22 c 7 105a4 22 10 3 105b4 22 8 1 105bc 11 1ec 2 2d0 11 2 1 e6 11 1",
   "1 299 11 1 1 253 11 2 2 2a3 22 1 1 ab66 11 2 1 2a4 11 1 2 256 11 2 1 1d91 11 1 1 258 11 1 1",
   "25e 11 1 1 2a9 11 1 1 264 11 1 1 262 11 1 1 260 11 1 2 29b 21 1 1 127 11 2 1 267 11 1 1 284",
   "11 1 2 2aa 11 2 1 26c 11 1 1 1df04 11 1 1 a78e 11 1 1 26e 11 1 2 1df05 21 1 1 28e 11 2 1 f8",
   "11 1 2 276 11 2 1 71 11 1 1 27a 11 1 1 1df08 11 1 2 27d 11 2 1 280 11 1 1 2a8 11 1 2 2a6 21 1",
   "1 ab67 11 2 1 288 11 1 1 2c71 11 2 1 28f 11 1 2 2a1 11 2 1 298 11 1 3 1c0 11 3 1 1df0a 11 1 1",
   "1df1e 11 4c6 33 10cc0 11 d0 16 10d70 11 b50 20 118c0 11 55a0 20 16e60 11 60 19 16ebb 11 5e36",
   "1a 61 11 1a a 30 11 710 1a 61 11 1a 1a 61 11 1a 1a 61 11 1a d 61 22 1 3 62 22 8 9 6a 22 11 1a",
   "61 11 1a 1a 61 11 1a 2 61 22 3 1 64 11 3 1 67 11 3 2 6a 11 4 4 6e 11 5 8 73 11 8 4 61 11 5 b",
   "66 22 3 3 69 22 8 5 71 22 a 1a 61 11 1a 1a 61 11 1a 2 61 11 3 4 64 11 6 8 6a 11 9 7 73 11 8",
   "1a 61 11 1a 2 61 11 3 4 64 11 5 5 69 11 6 1 6f 11 4 7 73 11 8 1a 61 11 1a 1a 61 11 1a 1a 61",
   "11 1a 1a 61 11 1a 1a 61 11 1a 1a 61 11 1a 1a 61 11 1a 1a 61 11 1a 1a 61 11 1a 1a 61 11 1a 1a",
   "61 11 1a 1a 61 11 1a 1a 61 11 1a 1 131 11 1 1 237 11 3 11 3b1 11 11 1 3b8 11 1 7 3c3 11 7 1",
   "2207 11 1 11 3b1 11 11 2 3c3 10 2 6 3c4 11 6 1 2202 11 1 1 3b5 11 1 2 3b8 12 2 1 3c6 11 1 1",
   "3c1 11 1 1 3c0 11 1 11 3b1 11 11 1 3b8 11 1 7 3c3 11 7 1 2207 11 1 11 3b1 11 11 2 3c3 10 2 6",
   "3c4 11 6 1 2202 11 1 1 3b5 11 1 2 3b8 12 2 1 3c6 11 1 1 3c1 11 1 1 3c0 11 1 11 3b1 11 11 1",
   "3b8 11 1 7 3c3 11 7 1 2207 11 1 11 3b1 11 11 2 3c3 10 2 6 3c4 11 6 1 2202 11 1 1 3b5 11 1 2",
   "3b8 12 2 1 3c6 11 1 1 3c1 11 1 1 3c0 11 1 11 3b1 11 11 1 3b8 11 1 7 3c3 11 7 1 2207 11 1 11",
   "3b1 11 11 2 3c3 10 2 6 3c4 11 6 1 2202 11 1 1 3b5 11 1 2 3b8 12 2 1 3c6 11 1 1 3c1 11 1 1 3c0",
   "11 1 11 3b1 11 11 1 3b8 11 1 7 3c3 11 7 1 2207 11 1 11 3b1 11 11 2 3c3 10 2 6 3c4 11 6 1 2202",
   "11 1 1 3b5 11 1 2 3b8 12 2 1 3c6 11 1 1 3c1 11 1 1 3c0 11 1 2 3dd 10 4 a 30 11 a a 30 11 a a",
   "30 11 a a 30 11 a a 30 11 83a 9 430 11 9 3 43a 11 3 b 43e 11 b 2 44b 12 2 1 44e 11 1 1 a689",
   "11 1 1 4d9 11 1 2 456 12 2 1 4e9 11 1 1 4af 11 1 1 4cf 11 1 9 430 11 9 2 43a 11 2 2 43e 11 2",
   "2 441 12 2 5 444 11 5 2 44a 11 2 1 491 11 1 1 456 11 1 1 455 11 1 1 45f 11 1 1 4ab 11 1 1",
   "a651 11 1 1 4b1 11 893 22 1e922 11 500 2 627 11 2 1 62c 11 1 1 62f 11 2 1 648 11 1 1 632 11 1",
   "1 62d 11 1 1 637 11 1 1 64a 11 1 4 643 11 4 1 633 11 1 1 639 11 1 2 641 21 1 1 635 11 2 1 631",
   "11 1 1 634 11 1 2 62a 11 2 2 62e 12 2 3 636 12 3 1 66e 11 1 1 6ba 11 1 1 6a1 11 1 1 66f 11 2",
   "1 628 11 1 1 62c 11 2 1 647 11 3 1 62d 11 2 1 64a 11 1 4 643 11 4 1 633 11 1 1 639 11 1 2 641",
   "21 1 1 635 11 3 1 634 11 1 2 62a 11 2 1 62e 11 2 1 636 11 2 1 63a 11 7 1 62c 11 5 1 62d 11 2",
   "1 64a 11 2 2 644 22 3 1 633 11 1 1 639 11 2 1 635 11 1 1 642 11 2 1 634 11 3 1 62e 11 2 1 636",
   "11 2 1 63a 11 2 1 6ba 11 2 1 66f 11 2 1 628 11 1 1 62c 11 2 1 647 11 3 1 62d 11 1 1 637 11 1",
   "1 64a 11 1 2 643 22 3 1 646 11 1 1 633 11 1 1 639 11 1 2 641 21 1 1 635 11 3 1 634 11 1 2 62a",
   "11 2 1 62e 11 2 3 636 12 3 1 66e 11 2 1 6a1 11 2 2 627 11 2 1 62c 11 1 1 62f 11 1 2 647 11 2",
   "1 632 11 1 1 62d 11 1 1 637 11 1 1 64a 11 2 3 644 11 3 1 633 11 1 1 639 11 1 2 641 21 1 1 635",
   "11 2 1 631 11 1 1 634 11 1 2 62a 11 2 2 62e 12 2 3 636 12 8 1 628 11 1 1 62c 11 1 1 62f 11 2",
   "1 648 11 1 1 632 11 1 1 62d 11 1 1 637 11 1 1 64a 11 2 3 644 11 3 1 633 11 1 1 639 11 1 2 641",
   "21 1 1 635 11 2 1 631 11 1 1 634 11 1 2 62a 11 2 2 62e 12 2 3 636 12 272 1 63 11 1 1 72 11 4",
   "1a 61 11 d2 1 30b5 11 e 1 624b 11 1 1 5b57 11 1 1 53cc 11 1 1 30c7 11 1 1 4e8c 11 1 1 591a 11",
   "1 1 89e3 11 1 1 5929 11 1 1 4ea4 11 1 1 6620 11 1 1 7121 11 1 1 6599 11 1 1 524d 11 1 1 5f8c",
   "11 1 1 518d 11 1 1 65b0 11 1 1 521d 11 1 1 7d42 11 1 1 751f 11 1 1 8ca9 11 1 1 58f0 11 1 1",
   "5439 11 1 1 6f14 11 1 1 6295 11 1 1 6355 11 1 1 4e00 11 1 1 4e09 11 1 1 904a 11 1 1 5de6 11 1",
   "1 4e2d 11 1 1 53f3 11 1 1 6307 11 1 1 8d70 11 1 1 6253 11 1 1 7981 11 1 1 7a7a 11 1 1 5408 11",
   "1 1 6e80 11 1 1 6709 11 1 1 6708 11 1 1 7533 11 1 1 5272 11 1 1 55b6 11 1 1 914d 11 15 1 5f97",
   "11 1 1 53ef 11 99f a 30 11 fc10 1 4e3d 11 1 1 4e38 11 1 1 4e41 11 1 1 20122 11 1 1 4f60 11 1",
   "1 4fae 11 1 1 4fbb 11 1 1 5002 11 1 1 507a 11 1 1 5099 11 1 1 50e7 11 1 1 50cf 11 1 1 349e 11",
   "1 1 2063a 11 1 1 514d 11 1 1 5154 11 1 1 5164 11 1 1 5177 11 1 1 2051c 11 1 1 34b9 11 1 1",
   "5167 11 1 1 518d 11 1 1 2054b 11 1 1 5197 11 1 1 51a4 11 1 1 4ecc 11 1 1 51ac 11 1 1 51b5 11",
   "1 1 291df 11 1 1 51f5 11 1 1 5203 11 1 1 34df 11 1 1 523b 11 1 1 5246 11 1 1 5272 11 1 1 5277",
   "11 1 1 3515 11 1 2 52c7 12 2 1 52e4 11 1 1 52fa 11 1 2 5305 11 2 1 5317 11 1 1 5349 11 1 1",
   "5351 11 1 1 535a 11 1 1 5373 11 1 2 537d 12 2 2 537f 10 2 1 20a2c 11 1 1 7070 11 1 1 53ca 11",
   "1 1 53df 11 1 1 20b63 11 1 1 53eb 11 1 1 53f1 11 1 1 5406 11 1 1 549e 11 1 1 5438 11 1 1 5448",
   "11 1 1 5468 11 1 1 54a2 11 1 1 54f6 11 1 1 5510 11 1 1 5553 11 1 1 5563 11 1 2 5584 10 2 1",
   "5599 11 1 1 55ab 11 1 1 55b3 11 1 1 55c2 11 1 2 5716 21 1 1 5606 11 2 1 5651 11 1 1 5674 11 1",
   "1 5207 11 1 1 58ee 11 1 1 57ce 11 1 1 57f4 11 1 1 580d 11 1 1 578b 11 1 1 5832 11 1 1 5831 11",
   "1 1 58ac 11 1 1 214e4 11 1 1 58f2 11 1 1 58f7 11 1 1 5906 11 1 1 591a 11 1 1 5922 11 1 1 5962",
   "11 1 1 216a8 11 1 1 216ea 11 1 1 59ec 11 1 1 5a1b 11 1 1 5a27 11 1 1 59d8 11 1 1 5a66 11 1 1",
   "36ee 11 1 1 36fc 11 1 1 5b08 11 1 2 5b3e 10 2 1 219c8 11 1 1 5bc3 11 1 1 5bd8 11 1 1 5be7 11",
   "1 1 5bf3 11 1 1 21b18 11 1 1 5bff 11 1 1 5c06 11 1 1 5f53 11 1 1 5c22 11 1 1 3781 11 1 1 5c60",
   "11 1 1 5c6e 11 1 1 5cc0 11 1 1 5c8d 11 1 2 21de4 22 1 1 5d43 11 2 1 5d6e 11 1 1 5d6b 11 1 1",
   "5d7c 11 1 2 5de1 11 2 1 382f 11 1 1 5dfd 11 1 1 5e28 11 1 1 5e3d 11 1 1 5e69 11 1 1 3862 11 1",
   "1 22183 11 1 1 387c 11 1 1 5eb0 11 1 1 5eb3 11 1 1 5eb6 11 1 1 5eca 11 1 1 2a392 11 1 1 5efe",
   "11 1 2 22331 10 2 1 8201 11 1 2 5f22 10 2 1 38c7 11 1 1 232b8 11 1 1 261da 11 1 1 5f62 11 1 1",
   "5f6b 11 1 1 38e3 11 1 1 5f9a 11 1 1 5fcd 11 1 1 5fd7 11 1 1 5ff9 11 1 1 6081 11 1 1 393a 11 1",
   "1 391c 11 1 1 6094 11 1 1 226d4 11 1 1 60c7 11 1 1 6148 11 1 2 614c 12 2 1 614c 11 1 1 617a",
   "11 1 1 618e 11 1 1 61b2 11 1 1 61a4 11 1 1 61af 11 1 1 61de 11 1 1 61f2 11 1 1 61f6 11 1 1",
   "6210 11 1 1 621b 11 1 1 625d 11 1 1 62b1 11 1 1 62d4 11 1 1 6350 11 1 1 22b0c 11 1 1 633d 11",
   "1 1 62fc 11 1 1 6368 11 1 1 6383 11 1 1 63e4 11 1 1 22bf1 11 1 1 6422 11 1 1 63c5 11 1 1 63a9",
   "11 1 1 3a2e 11 1 1 6469 11 1 1 647e 11 1 1 649d 11 1 1 6477 11 1 1 3a6c 11 1 1 654f 11 1 1",
   "656c 11 1 1 2300a 11 1 1 65e3 11 1 1 66f8 11 1 1 6649 11 1 1 3b19 11 1 1 6691 11 1 1 3b08 11",
   "1 1 3ae4 11 1 1 5192 11 1 1 5195 11 1 1 6700 11 1 1 669c 11 1 1 80ad 11 1 1 43d9 11 1 1 6717",
   "11 1 1 671b 11 1 1 6721 11 1 1 675e 11 1 1 6753 11 1 1 233c3 11 1 1 3b49 11 1 1 67fa 11 1 1",
   "6785 11 1 1 6852 11 1 1 6885 11 1 1 2346d 11 1 1 688e 11 1 1 681f 11 1 1 6914 11 1 1 3b9d 11",
   "1 1 6942 11 1 1 69a3 11 1 1 69ea 11 1 1 6aa8 11 1 1 236a3 11 1 1 6adb 11 1 1 3c18 11 1 1 6b21",
   "11 1 1 238a7 11 1 1 6b54 11 1 1 3c4e 11 1 1 6b72 11 1 1 6b9f 11 1 2 6bba 11 2 1 23a8d 11 1 1",
   "21d0b 11 1 1 23afa 11 1 1 6c4e 11 1 1 23cbc 11 1 1 6cbf 11 1 1 6ccd 11 1 1 6c67 11 1 1 6d16",
   "11 1 1 6d3e 11 1 1 6d77 11 1 1 6d41 11 1 1 6d69 11 1 1 6d78 11 1 1 6d85 11 1 1 23d1e 11 1 1",
   "6d34 11 1 1 6e2f 11 1 1 6e6e 11 1 1 3d33 11 1 1 6ecb 11 1 1 6ec7 11 1 1 23ed1 11 1 1 6df9 11",
   "1 1 6f6e 11 1 1 23f5e 11 1 1 23f8e 11 1 1 6fc6 11 1 1 7039 11 1 1 701e 11 1 1 701b 11 1 1",
   "3d96 11 1 1 704a 11 1 1 707d 11 1 1 7077 11 1 1 70ad 11 1 1 20525 11 1 1 7145 11 1 1 24263 11",
   "1 1 719c 11 1 1 243ab 11 1 1 7228 11 1 1 7235 11 1 1 7250 11 1 1 24608 11 1 1 7280 11 1 1",
   "7295 11 1 1 24735 11 1 1 24814 11 1 1 737a 11 1 1 738b 11 1 1 3eac 11 1 1 73a5 11 1 2 3eb8 10",
   "2 1 7447 11 1 1 745c 11 1 1 7471 11 1 1 7485 11 1 1 74ca 11 1 1 3f1b 11 1 1 7524 11 1 1 24c36",
   "11 1 1 753e 11 1 1 24c92 11 1 1 7570 11 1 1 2219f 11 1 1 7610 11 1 1 24fa1 11 1 1 24fb8 11 1",
   "1 25044 11 1 1 3ffc 11 1 1 4008 11 1 1 76f4 11 1 1 250f3 11 1 1 250f2 11 1 1 25119 11 1 1",
   "25133 11 1 2 771e 11 2 1 771f 11 1 1 774a 11 1 1 4039 11 1 1 778b 11 1 1 4046 11 1 1 4096 11",
   "1 1 2541d 11 1 1 784e 11 1 1 788c 11 1 1 78cc 11 1 1 40e3 11 1 1 25626 11 1 1 7956 11 1 1",
   "2569a 11 1 1 256c5 11 1 1 798f 11 1 1 79eb 11 1 1 412f 11 1 1 7a40 11 1 1 7a4a 11 1 1 7a4f 11",
   "1 1 2597c 11 1 2 25aa7 10 2 1 7aee 11 1 1 4202 11 1 1 25bab 11 1 1 7bc6 11 1 1 7bc9 11 1 1",
   "4227 11 1 1 25c80 11 1 1 7cd2 11 1 1 42a0 11 1 1 7ce8 11 1 1 7ce3 11 1 1 7d00 11 1 1 25f86 11",
   "1 1 7d63 11 1 1 4301 11 1 1 7dc7 11 1 1 7e02 11 1 1 7e45 11 1 1 4334 11 1 1 26228 11 1 1",
   "26247 11 1 1 4359 11 1 1 262d9 11 1 1 7f7a 11 1 1 2633e 11 1 1 7f95 11 1 1 7ffa 11 1 1 8005",
   "11 1 1 264da 11 1 1 26523 11 1 1 8060 11 1 1 265a8 11 1 1 8070 11 1 1 2335f 11 1 1 43d5 11 1",
   "1 80b2 11 1 1 8103 11 1 1 440b 11 1 1 813e 11 1 1 5ab5 11 1 1 267a7 11 1 1 267b5 11 1 1 23393",
   "11 1 1 2339c 11 1 1 8201 11 1 1 8204 11 1 1 8f9e 11 1 1 446b 11 1 1 8291 11 1 1 828b 11 1 1",
   "829d 11 1 1 52b3 11 1 2 82b1 12 2 1 82bd 11 1 1 82e6 11 1 1 26b3c 11 1 1 82e5 11 1 1 831d 11",
   "1 1 8363 11 1 1 83ad 11 1 1 8323 11 1 1 83bd 11 1 1 83e7 11 1 1 8457 11 1 1 8353 11 1 2 83ca",
   "12 2 1 83dc 11 1 1 26c36 11 1 1 26d6b 11 1 1 26cd5 11 1 1 452b 11 1 2 84f1 12 2 1 8516 11 1 1",
   "273ca 11 1 1 8564 11 1 1 26f2c 11 1 1 455d 11 1 1 4561 11 1 1 26fb1 11 1 1 270d2 11 1 1 456b",
   "11 1 1 8650 11 1 1 865c 11 1 2 8667 12 2 1 86a9 11 1 1 8688 11 1 1 870e 11 1 1 86e2 11 1 1",
   "8779 11 1 1 8728 11 1 1 876b 11 1 1 8786 11 1 1 45d7 11 1 1 87e1 11 1 1 8801 11 1 1 45f9 11 1",
   "1 8860 11 1 1 8863 11 1 1 27667 11 1 1 88d7 11 1 1 88de 11 1 1 4635 11 1 1 88fa 11 1 1 34bb",
   "11 1 1 278ae 11 1 1 27966 11 1 1 46be 11 1 1 46c7 11 1 1 8aa0 11 1 1 8aed 11 1 1 8b8a 11 1 1",
   "8c55 11 1 1 27ca8 11 1 1 8cab 11 1 1 8cc1 11 1 1 8d1b 11 1 1 8d77 11 1 1 27f2f 11 1 1 20804",
   "11 1 1 8dcb 11 1 1 8dbc 11 1 1 8df0 11 1 1 208de 11 1 1 8ed4 11 1 1 8f38 11 1 1 285d2 11 1 1",
   "285ed 11 1 1 9094 11 1 1 90f1 11 1 1 9111 11 1 1 2872e 11 1 1 911b 11 1 1 9238 11 1 2 92d7 11",
   "2 1 927c 11 1 1 93f9 11 1 1 9415 11 1 1 28bfa 11 1 1 958b 11 1 1 4995 11 1 1 95b7 11 1 1",
   "28d77 11 1 1 49e6 11 1 1 96c3 11 1 1 5db2 11 1 1 9723 11 1 1 29145 11 1 1 2921a 11 1 1 4a6e",
   "11 1 1 4a76 11 1 1 97e0 11 1 1 2940a 11 1 1 4ab2 11 1 1 29496 11 1 2 980b 10 2 1 9829 11 1 1",
   "295b6 11 1 1 98e2 11 1 1 4b33 11 1 1 9929 11 1 1 99a7 11 1 1 99c2 11 1 1 99fe 11 1 1 4bce 11",
   "1 1 29b30 11 1 1 9b12 11 1 1 9c40 11 1 1 9cfd 11 1 1 4cce 11 1 1 4ced 11 1 1 9d67 11 1 1",
   "2a0ce 11 1 1 4cf8 11 1 1 2a105 11 1 1 2a20e 11 1 1 2a291 11 1 1 9ebb 11 1 1 4d56 11 1 1 9ef9",
   "11 1 1 9efe 11 1 1 9f05 11 1 1 9f0f 11 1 1 9f16 11 1 1 9f3b 11 1 1 2a600 11"]

/-- Characters with the sequences they give way to, from their table: the distance from the
character before, the length and the sequence. -/
def sequencesFrom (start : Nat) : List Nat → List (Nat × List Nat)
  | gap :: len :: rest =>
    (start + gap, rest.take len) :: sequencesFrom (start + gap) (rest.drop len)
  | _ => []
  termination_by table => table.length

/-- The characters that give way to several others. -/
def sequences : List (Nat × List Nat) := sequencesFrom 0 <| List.flatMap Hex.numbers
  ["a8 2 20 308 7 2 20 304 5 2 20 301 4 2 20 327 4 3 31 2044 34 1 3 31 2044 32 1 3 33 2044 34 72",
   "2 69 307 2 2 69 6a 1 2 69 6a c 2 6c b7 1 2 6c b7 9 2 2bc 6e 7b 2 64 17e 1 2 64 17e 1 2 64 17e",
   "1 2 6c 6a 1 2 6c 6a 1 2 6c 6a 1 2 6e 6a 1 2 6e 6a 1 2 6e 6a 25 2 64 7a 1 2 64 7a 1 2 64 7a e5",
   "2 20 306 1 2 20 307 1 2 20 30a 1 2 20 328 1 2 20 303 1 2 20 30b 67 2 308 301 36 2 20 3b9 a 2",
   "20 301 1 3 20 308 301 202 2 565 582 ee 2 627 674 1 2 648 674 1 2 6c7 674 1 2 64a 674 2e0 2",
   "915 93c 1 2 916 93c 1 2 917 93c 1 2 91c 93c 1 2 921 93c 1 2 922 93c 1 2 92b 93c 1 2 92f 93c",
   "7d 2 9a1 9bc 1 2 9a2 9bc 2 2 9af 9bc 54 2 a32 a3c 3 2 a38 a3c 23 2 a16 a3c 1 2 a17 a3c 1 2",
   "a1c a3c 3 2 a2b a3c fe 2 b21 b3c 1 2 b22 b3c 2d6 2 e4d e32 80 2 ecd eb2 29 2 eab e99 1 2 eab",
   "ea1 66 2 f42 fb7 a 2 f4c fb7 5 2 f51 fb7 5 2 f56 fb7 5 2 f5b fb7 d 2 f40 fb5 a 2 f71 f72 2 2",
   "f71 f74 1 2 fb2 f80 1 3 fb2 f71 f80 1 2 fb3 f80 1 3 fb3 f71 f80 8 2 f71 f80 12 2 f92 fb7 a 2",
   "f9c fb7 5 2 fa1 fb7 5 2 fa6 fb7 5 2 fab fb7 d 2 f90 fb5 ee1 2 61 2be e6 2 1f00 3b9 1 2 1f01",
   "3b9 1 2 1f02 3b9 1 2 1f03 3b9 1 2 1f04 3b9 1 2 1f05 3b9 1 2 1f06 3b9 1 2 1f07 3b9 1 2 1f00",
   "3b9 1 2 1f01 3b9 1 2 1f02 3b9 1 2 1f03 3b9 1 2 1f04 3b9 1 2 1f05 3b9 1 2 1f06 3b9 1 2 1f07",
   "3b9 1 2 1f20 3b9 1 2 1f21 3b9 1 2 1f22 3b9 1 2 1f23 3b9 1 2 1f24 3b9 1 2 1f25 3b9 1 2 1f26",
   "3b9 1 2 1f27 3b9 1 2 1f20 3b9 1 2 1f21 3b9 1 2 1f22 3b9 1 2 1f23 3b9 1 2 1f24 3b9 1 2 1f25",
   "3b9 1 2 1f26 3b9 1 2 1f27 3b9 1 2 1f60 3b9 1 2 1f61 3b9 1 2 1f62 3b9 1 2 1f63 3b9 1 2 1f64",
   "3b9 1 2 1f65 3b9 1 2 1f66 3b9 1 2 1f67 3b9 1 2 1f60 3b9 1 2 1f61 3b9 1 2 1f62 3b9 1 2 1f63",
   "3b9 1 2 1f64 3b9 1 2 1f65 3b9 1 2 1f66 3b9 1 2 1f67 3b9 3 2 1f70 3b9 1 2 3b1 3b9 1 2 3ac 3b9",
   "3 2 1fb6 3b9 5 2 3b1 3b9 1 2 20 313 2 2 20 313 1 2 20 342 1 3 20 308 342 1 2 1f74 3b9 1 2 3b7",
   "3b9 1 2 3ae 3b9 3 2 1fc6 3b9 5 2 3b7 3b9 1 3 20 313 300 1 3 20 313 301 1 3 20 313 342 e 3 20",
   "314 300 1 3 20 314 301 1 3 20 314 342 e 3 20 308 300 1 3 20 308 301 4 2 1f7c 3b9 1 2 3c9 3b9",
   "1 2 3ce 3b9 3 2 1ff6 3b9 5 2 3c9 3b9 1 2 20 301 1 2 20 314 19 2 20 333 1c 2 2032 2032 1 3",
   "2032 2032 2032 2 2 2035 2035 1 3 2035 2035 2035 5 2 21 21 2 2 20 305 9 2 3f 3f 1 2 3f 21 1 2",
   "21 3f e 4 2032 2032 2032 2032 51 2 72 73 58 3 61 2f 63 1 3 61 2f 73 2 2 b0 63 2 3 63 2f 6f 1",
   "3 63 2f 75 3 2 b0 66 d 2 6e 6f a 2 73 6d 1 3 74 65 6c 1 2 74 6d 19 3 66 61 78 15 3 31 2044 37",
   "1 3 31 2044 39 1 4 31 2044 31 30 1 3 31 2044 33 1 3 32 2044 33 1 3 31 2044 35 1 3 32 2044 35",
   "1 3 33 2044 35 1 3 34 2044 35 1 3 31 2044 36 1 3 35 2044 36 1 3 31 2044 38 1 3 33 2044 38 1 3",
   "35 2044 38 1 3 37 2044 38 1 2 31 2044 2 2 69 69 1 3 69 69 69 1 2 69 76 2 2 76 69 1 3 76 69 69",
   "1 4 76 69 69 69 1 2 69 78 2 2 78 69 1 3 78 69 69 6 2 69 69 1 3 69 69 69 1 2 69 76 2 2 76 69 1",
   "3 76 69 69 1 4 76 69 69 69 1 2 69 78 2 2 78 69 1 3 78 69 69 e 3 30 2044 33 a3 2 222b 222b 1 3",
   "222b 222b 222b 2 2 222e 222e 1 3 222e 222e 222e 239 2 31 30 1 2 31 31 1 2 31 32 1 2 31 33 1 2",
   "31 34 1 2 31 35 1 2 31 36 1 2 31 37 1 2 31 38 1 2 31 39 1 2 32 30 1 3 28 31 29 1 3 28 32 29 1",
   "3 28 33 29 1 3 28 34 29 1 3 28 35 29 1 3 28 36 29 1 3 28 37 29 1 3 28 38 29 1 3 28 39 29 1 4",
   "28 31 30 29 1 4 28 31 31 29 1 4 28 31 32 29 1 4 28 31 33 29 1 4 28 31 34 29 1 4 28 31 35 29 1",
   "4 28 31 36 29 1 4 28 31 37 29 1 4 28 31 38 29 1 4 28 31 39 29 1 4 28 32 30 29 15 3 28 61 29 1",
   "3 28 62 29 1 3 28 63 29 1 3 28 64 29 1 3 28 65 29 1 3 28 66 29 1 3 28 67 29 1 3 28 68 29 1 3",
   "28 69 29 1 3 28 6a 29 1 3 28 6b 29 1 3 28 6c 29 1 3 28 6d 29 1 3 28 6e 29 1 3 28 6f 29 1 3 28",
   "70 29 1 3 28 71 29 1 3 28 72 29 1 3 28 73 29 1 3 28 74 29 1 3 28 75 29 1 3 28 76 29 1 3 28 77",
   "29 1 3 28 78 29 1 3 28 79 29 1 3 28 7a 29 557 4 222b 222b 222b 222b 68 3 3a 3a 3d 1 2 3d 3d 1",
   "3 3d 3d 3d 66 2 2add 338 5bf 2 20 3099 1 2 20 309a 3 2 3088 308a 60 2 30b3 30c8 101 3 28 1100",
   "29 1 3 28 1102 29 1 3 28 1103 29 1 3 28 1105 29 1 3 28 1106 29 1 3 28 1107 29 1 3 28 1109 29",
   "1 3 28 110b 29 1 3 28 110c 29 1 3 28 110e 29 1 3 28 110f 29 1 3 28 1110 29 1 3 28 1111 29 1 3",
   "28 1112 29 1 3 28 ac00 29 1 3 28 b098 29 1 3 28 b2e4 29 1 3 28 b77c 29 1 3 28 b9c8 29 1 3 28",
   "bc14 29 1 3 28 c0ac 29 1 3 28 c544 29 1 3 28 c790 29 1 3 28 cc28 29 1 3 28 ce74 29 1 3 28",
   "d0c0 29 1 3 28 d30c 29 1 3 28 d558 29 1 3 28 c8fc 29 1 4 28 c624 c804 29 1 4 28 c624 d6c4 29",
   "2 3 28 4e00 29 1 3 28 4e8c 29 1 3 28 4e09 29 1 3 28 56db 29 1 3 28 4e94 29 1 3 28 516d 29 1 3",
   "28 4e03 29 1 3 28 516b 29 1 3 28 4e5d 29 1 3 28 5341 29 1 3 28 6708 29 1 3 28 706b 29 1 3 28",
   "6c34 29 1 3 28 6728 29 1 3 28 91d1 29 1 3 28 571f 29 1 3 28 65e5 29 1 3 28 682a 29 1 3 28",
   "6709 29 1 3 28 793e 29 1 3 28 540d 29 1 3 28 7279 29 1 3 28 8ca1 29 1 3 28 795d 29 1 3 28",
   "52b4 29 1 3 28 4ee3 29 1 3 28 547c 29 1 3 28 5b66 29 1 3 28 76e3 29 1 3 28 4f01 29 1 3 28",
   "8cc7 29 1 3 28 5354 29 1 3 28 796d 29 1 3 28 4f11 29 1 3 28 81ea 29 1 3 28 81f3 29 d 3 70 74",
   "65 1 2 32 31 1 2 32 32 1 2 32 33 1 2 32 34 1 2 32 35 1 2 32 36 1 2 32 37 1 2 32 38 1 2 32 39",
   "1 2 33 30 1 2 33 31 1 2 33 32 1 2 33 33 1 2 33 34 1 2 33 35 1d 2 cc38 ace0 1 2 c8fc c758 34 2",
   "33 36 1 2 33 37 1 2 33 38 1 2 33 39 1 2 34 30 1 2 34 31 1 2 34 32 1 2 34 33 1 2 34 34 1 2 34",
   "35 1 2 34 36 1 2 34 37 1 2 34 38 1 2 34 39 1 2 35 30 1 2 31 6708 1 2 32 6708 1 2 33 6708 1 2",
   "34 6708 1 2 35 6708 1 2 36 6708 1 2 37 6708 1 2 38 6708 1 2 39 6708 1 3 31 30 6708 1 3 31 31",
   "6708 1 3 31 32 6708 1 2 68 67 1 3 65 72 67 1 2 65 76 1 3 6c 74 64 30 2 4ee4 548c 1 4 30a2",
   "30d1 30fc 30c8 1 4 30a2 30eb 30d5 30a1 1 4 30a2 30f3 30da 30a2 1 3 30a2 30fc 30eb 1 4 30a4",
   "30cb 30f3 30b0 1 3 30a4 30f3 30c1 1 3 30a6 30a9 30f3 1 5 30a8 30b9 30af 30fc 30c9 1 4 30a8",
   "30fc 30ab 30fc 1 3 30aa 30f3 30b9 1 3 30aa 30fc 30e0 1 3 30ab 30a4 30ea 1 4 30ab 30e9 30c3",
   "30c8 1 4 30ab 30ed 30ea 30fc 1 3 30ac 30ed 30f3 1 3 30ac 30f3 30de 1 2 30ae 30ac 1 3 30ae",
   "30cb 30fc 1 4 30ad 30e5 30ea 30fc 1 4 30ae 30eb 30c0 30fc 1 2 30ad 30ed 1 5 30ad 30ed 30b0",
   "30e9 30e0 1 6 30ad 30ed 30e1 30fc 30c8 30eb 1 5 30ad 30ed 30ef 30c3 30c8 1 3 30b0 30e9 30e0 1",
   "5 30b0 30e9 30e0 30c8 30f3 1 5 30af 30eb 30bc 30a4 30ed 1 4 30af 30ed 30fc 30cd 1 3 30b1 30fc",
   "30b9 1 3 30b3 30eb 30ca 1 3 30b3 30fc 30dd 1 4 30b5 30a4 30af 30eb 1 5 30b5 30f3 30c1 30fc",
   "30e0 1 4 30b7 30ea 30f3 30b0 1 3 30bb 30f3 30c1 1 3 30bb 30f3 30c8 1 3 30c0 30fc 30b9 1 2",
   "30c7 30b7 1 2 30c9 30eb 1 2 30c8 30f3 1 2 30ca 30ce 1 3 30ce 30c3 30c8 1 3 30cf 30a4 30c4 1 5",
   "30d1 30fc 30bb 30f3 30c8 1 3 30d1 30fc 30c4 1 4 30d0 30fc 30ec 30eb 1 5 30d4 30a2 30b9 30c8",
   "30eb 1 3 30d4 30af 30eb 1 2 30d4 30b3 1 2 30d3 30eb 1 5 30d5 30a1 30e9 30c3 30c9 1 4 30d5",
   "30a3 30fc 30c8 1 5 30d6 30c3 30b7 30a7 30eb 1 3 30d5 30e9 30f3 1 5 30d8 30af 30bf 30fc 30eb 1",
   "2 30da 30bd 1 3 30da 30cb 30d2 1 3 30d8 30eb 30c4 1 3 30da 30f3 30b9 1 3 30da 30fc 30b8 1 3",
   "30d9 30fc 30bf 1 4 30dd 30a4 30f3 30c8 1 3 30dc 30eb 30c8 1 2 30db 30f3 1 3 30dd 30f3 30c9 1",
   "3 30db 30fc 30eb 1 3 30db 30fc 30f3 1 4 30de 30a4 30af 30ed 1 3 30de 30a4 30eb 1 3 30de 30c3",
   "30cf 1 3 30de 30eb 30af 1 5 30de 30f3 30b7 30e7 30f3 1 4 30df 30af 30ed 30f3 1 2 30df 30ea 1",
   "5 30df 30ea 30d0 30fc 30eb 1 2 30e1 30ac 1 4 30e1 30ac 30c8 30f3 1 4 30e1 30fc 30c8 30eb 1 3",
   "30e4 30fc 30c9 1 3 30e4 30fc 30eb 1 3 30e6 30a2 30f3 1 4 30ea 30c3 30c8 30eb 1 2 30ea 30e9 1",
   "3 30eb 30d4 30fc 1 4 30eb 30fc 30d6 30eb 1 2 30ec 30e0 1 5 30ec 30f3 30c8 30b2 30f3 1 3 30ef",
   "30c3 30c8 1 2 30 70b9 1 2 31 70b9 1 2 32 70b9 1 2 33 70b9 1 2 34 70b9 1 2 35 70b9 1 2 36 70b9",
   "1 2 37 70b9 1 2 38 70b9 1 2 39 70b9 1 3 31 30 70b9 1 3 31 31 70b9 1 3 31 32 70b9 1 3 31 33",
   "70b9 1 3 31 34 70b9 1 3 31 35 70b9 1 3 31 36 70b9 1 3 31 37 70b9 1 3 31 38 70b9 1 3 31 39",
   "70b9 1 3 32 30 70b9 1 3 32 31 70b9 1 3 32 32 70b9 1 3 32 33 70b9 1 3 32 34 70b9 1 3 68 70 61",
   "1 2 64 61 1 2 61 75 1 3 62 61 72 1 2 6f 76 1 2 70 63 1 2 64 6d 1 3 64 6d 32 1 3 64 6d 33 1 2",
   "69 75 1 2 5e73 6210 1 2 662d 548c 1 2 5927 6b63 1 2 660e 6cbb 1 4 682a 5f0f 4f1a 793e 1 2 70",
   "61 1 2 6e 61 1 2 3bc 61 1 2 6d 61 1 2 6b 61 1 2 6b 62 1 2 6d 62 1 2 67 62 1 3 63 61 6c 1 4 6b",
   "63 61 6c 1 2 70 66 1 2 6e 66 1 2 3bc 66 1 2 3bc 67 1 2 6d 67 1 2 6b 67 1 2 68 7a 1 3 6b 68 7a",
   "1 3 6d 68 7a 1 3 67 68 7a 1 3 74 68 7a 1 2 3bc 6c 1 2 6d 6c 1 2 64 6c 1 2 6b 6c 1 2 66 6d 1 2",
   "6e 6d 1 2 3bc 6d 1 2 6d 6d 1 2 63 6d 1 2 6b 6d 1 3 6d 6d 32 1 3 63 6d 32 1 2 6d 32 1 3 6b 6d",
   "32 1 3 6d 6d 33 1 3 63 6d 33 1 2 6d 33 1 3 6b 6d 33 1 3 6d 2215 73 1 4 6d 2215 73 32 1 2 70",
   "61 1 3 6b 70 61 1 3 6d 70 61 1 3 67 70 61 1 3 72 61 64 1 5 72 61 64 2215 73 1 6 72 61 64 2215",
   "73 32 1 2 70 73 1 2 6e 73 1 2 3bc 73 1 2 6d 73 1 2 70 76 1 2 6e 76 1 2 3bc 76 1 2 6d 76 1 2",
   "6b 76 1 2 6d 76 1 2 70 77 1 2 6e 77 1 2 3bc 77 1 2 6d 77 1 2 6b 77 1 2 6d 77 1 2 6b 3c9 1 2",
   "6d 3c9 2 2 62 71 1 2 63 63 1 2 63 64 1 4 63 2215 6b 67 2 2 64 62 1 2 67 79 1 2 68 61 1 2 68",
   "70 1 2 69 6e 1 2 6b 6b 1 2 6b 6d 1 2 6b 74 1 2 6c 6d 1 2 6c 6e 1 3 6c 6f 67 1 2 6c 78 1 2 6d",
   "62 1 3 6d 69 6c 1 3 6d 6f 6c 1 2 70 68 2 3 70 70 6d 1 2 70 72 1 2 73 72 1 2 73 76 1 2 77 62 1",
   "3 76 2215 6d 1 3 61 2215 6d 1 2 31 65e5 1 2 32 65e5 1 2 33 65e5 1 2 34 65e5 1 2 35 65e5 1 2",
   "36 65e5 1 2 37 65e5 1 2 38 65e5 1 2 39 65e5 1 3 31 30 65e5 1 3 31 31 65e5 1 3 31 32 65e5 1 3",
   "31 33 65e5 1 3 31 34 65e5 1 3 31 35 65e5 1 3 31 36 65e5 1 3 31 37 65e5 1 3 31 38 65e5 1 3 31",
   "39 65e5 1 3 32 30 65e5 1 3 32 31 65e5 1 3 32 32 65e5 1 3 32 33 65e5 1 3 32 34 65e5 1 3 32 35",
   "65e5 1 3 32 36 65e5 1 3 32 37 65e5 1 3 32 38 65e5 1 3 32 39 65e5 1 3 33 30 65e5 1 3 33 31",
   "65e5 1 3 67 61 6c c701 2 66 66 1 2 66 69 1 2 66 6c 1 3 66 66 69 1 3 66 66 6c 1 2 73 74 1 2 73",
   "74 d 2 574 576 1 2 574 565 1 2 574 56b 1 2 57e 576 1 2 574 56d 6 2 5d9 5b4 2 2 5f2 5b7 b 2",
   "5e9 5c1 1 2 5e9 5c2 1 3 5e9 5bc 5c1 1 3 5e9 5bc 5c2 1 2 5d0 5b7 1 2 5d0 5b8 1 2 5d0 5bc 1 2",
   "5d1 5bc 1 2 5d2 5bc 1 2 5d3 5bc 1 2 5d4 5bc 1 2 5d5 5bc 1 2 5d6 5bc 2 2 5d8 5bc 1 2 5d9 5bc 1",
   "2 5da 5bc 1 2 5db 5bc 1 2 5dc 5bc 2 2 5de 5bc 2 2 5e0 5bc 1 2 5e1 5bc 2 2 5e3 5bc 1 2 5e4 5bc",
   "2 2 5e6 5bc 1 2 5e7 5bc 1 2 5e8 5bc 1 2 5e9 5bc 1 2 5ea 5bc 1 2 5d5 5b9 1 2 5d1 5bf 1 2 5db",
   "5bf 1 2 5e4 5bf 1 2 5d0 5dc 8e 2 6c7 674 d 2 626 627 1 2 626 627 1 2 626 6d5 1 2 626 6d5 1 2",
   "626 648 1 2 626 648 1 2 626 6c7 1 2 626 6c7 1 2 626 6c6 1 2 626 6c6 1 2 626 6c8 1 2 626 6c8 1",
   "2 626 6d0 1 2 626 6d0 1 2 626 6d0 1 2 626 649 1 2 626 649 1 2 626 649 5 2 626 62c 1 2 626 62d",
   "1 2 626 645 1 2 626 649 1 2 626 64a 1 2 628 62c 1 2 628 62d 1 2 628 62e 1 2 628 645 1 2 628",
   "649 1 2 628 64a 1 2 62a 62c 1 2 62a 62d 1 2 62a 62e 1 2 62a 645 1 2 62a 649 1 2 62a 64a 1 2",
   "62b 62c 1 2 62b 645 1 2 62b 649 1 2 62b 64a 1 2 62c 62d 1 2 62c 645 1 2 62d 62c 1 2 62d 645 1",
   "2 62e 62c 1 2 62e 62d 1 2 62e 645 1 2 633 62c 1 2 633 62d 1 2 633 62e 1 2 633 645 1 2 635 62d",
   "1 2 635 645 1 2 636 62c 1 2 636 62d 1 2 636 62e 1 2 636 645 1 2 637 62d 1 2 637 645 1 2 638",
   "645 1 2 639 62c 1 2 639 645 1 2 63a 62c 1 2 63a 645 1 2 641 62c 1 2 641 62d 1 2 641 62e 1 2",
   "641 645 1 2 641 649 1 2 641 64a 1 2 642 62d 1 2 642 645 1 2 642 649 1 2 642 64a 1 2 643 627 1",
   "2 643 62c 1 2 643 62d 1 2 643 62e 1 2 643 644 1 2 643 645 1 2 643 649 1 2 643 64a 1 2 644 62c",
   "1 2 644 62d 1 2 644 62e 1 2 644 645 1 2 644 649 1 2 644 64a 1 2 645 62c 1 2 645 62d 1 2 645",
   "62e 1 2 645 645 1 2 645 649 1 2 645 64a 1 2 646 62c 1 2 646 62d 1 2 646 62e 1 2 646 645 1 2",
   "646 649 1 2 646 64a 1 2 647 62c 1 2 647 645 1 2 647 649 1 2 647 64a 1 2 64a 62c 1 2 64a 62d 1",
   "2 64a 62e 1 2 64a 645 1 2 64a 649 1 2 64a 64a 1 2 630 670 1 2 631 670 1 2 649 670 1 3 20 64c",
   "651 1 3 20 64d 651 1 3 20 64e 651 1 3 20 64f 651 1 3 20 650 651 1 3 20 651 670 1 2 626 631 1",
   "2 626 632 1 2 626 645 1 2 626 646 1 2 626 649 1 2 626 64a 1 2 628 631 1 2 628 632 1 2 628 645",
   "1 2 628 646 1 2 628 649 1 2 628 64a 1 2 62a 631 1 2 62a 632 1 2 62a 645 1 2 62a 646 1 2 62a",
   "649 1 2 62a 64a 1 2 62b 631 1 2 62b 632 1 2 62b 645 1 2 62b 646 1 2 62b 649 1 2 62b 64a 1 2",
   "641 649 1 2 641 64a 1 2 642 649 1 2 642 64a 1 2 643 627 1 2 643 644 1 2 643 645 1 2 643 649 1",
   "2 643 64a 1 2 644 645 1 2 644 649 1 2 644 64a 1 2 645 627 1 2 645 645 1 2 646 631 1 2 646 632",
   "1 2 646 645 1 2 646 646 1 2 646 649 1 2 646 64a 1 2 649 670 1 2 64a 631 1 2 64a 632 1 2 64a",
   "645 1 2 64a 646 1 2 64a 649 1 2 64a 64a 1 2 626 62c 1 2 626 62d 1 2 626 62e 1 2 626 645 1 2",
   "626 647 1 2 628 62c 1 2 628 62d 1 2 628 62e 1 2 628 645 1 2 628 647 1 2 62a 62c 1 2 62a 62d 1",
   "2 62a 62e 1 2 62a 645 1 2 62a 647 1 2 62b 645 1 2 62c 62d 1 2 62c 645 1 2 62d 62c 1 2 62d 645",
   "1 2 62e 62c 1 2 62e 645 1 2 633 62c 1 2 633 62d 1 2 633 62e 1 2 633 645 1 2 635 62d 1 2 635",
   "62e 1 2 635 645 1 2 636 62c 1 2 636 62d 1 2 636 62e 1 2 636 645 1 2 637 62d 1 2 638 645 1 2",
   "639 62c 1 2 639 645 1 2 63a 62c 1 2 63a 645 1 2 641 62c 1 2 641 62d 1 2 641 62e 1 2 641 645 1",
   "2 642 62d 1 2 642 645 1 2 643 62c 1 2 643 62d 1 2 643 62e 1 2 643 644 1 2 643 645 1 2 644 62c",
   "1 2 644 62d 1 2 644 62e 1 2 644 645 1 2 644 647 1 2 645 62c 1 2 645 62d 1 2 645 62e 1 2 645",
   "645 1 2 646 62c 1 2 646 62d 1 2 646 62e 1 2 646 645 1 2 646 647 1 2 647 62c 1 2 647 645 1 2",
   "647 670 1 2 64a 62c 1 2 64a 62d 1 2 64a 62e 1 2 64a 645 1 2 64a 647 1 2 626 645 1 2 626 647 1",
   "2 628 645 1 2 628 647 1 2 62a 645 1 2 62a 647 1 2 62b 645 1 2 62b 647 1 2 633 645 1 2 633 647",
   "1 2 634 645 1 2 634 647 1 2 643 644 1 2 643 645 1 2 644 645 1 2 646 645 1 2 646 647 1 2 64a",
   "645 1 2 64a 647 1 3 640 64e 651 1 3 640 64f 651 1 3 640 650 651 1 2 637 649 1 2 637 64a 1 2",
   "639 649 1 2 639 64a 1 2 63a 649 1 2 63a 64a 1 2 633 649 1 2 633 64a 1 2 634 649 1 2 634 64a 1",
   "2 62d 649 1 2 62d 64a 1 2 62c 649 1 2 62c 64a 1 2 62e 649 1 2 62e 64a 1 2 635 649 1 2 635 64a",
   "1 2 636 649 1 2 636 64a 1 2 634 62c 1 2 634 62d 1 2 634 62e 1 2 634 645 1 2 634 631 1 2 633",
   "631 1 2 635 631 1 2 636 631 1 2 637 649 1 2 637 64a 1 2 639 649 1 2 639 64a 1 2 63a 649 1 2",
   "63a 64a 1 2 633 649 1 2 633 64a 1 2 634 649 1 2 634 64a 1 2 62d 649 1 2 62d 64a 1 2 62c 649 1",
   "2 62c 64a 1 2 62e 649 1 2 62e 64a 1 2 635 649 1 2 635 64a 1 2 636 649 1 2 636 64a 1 2 634 62c",
   "1 2 634 62d 1 2 634 62e 1 2 634 645 1 2 634 631 1 2 633 631 1 2 635 631 1 2 636 631 1 2 634",
   "62c 1 2 634 62d 1 2 634 62e 1 2 634 645 1 2 633 647 1 2 634 647 1 2 637 645 1 2 633 62c 1 2",
   "633 62d 1 2 633 62e 1 2 634 62c 1 2 634 62d 1 2 634 62e 1 2 637 645 1 2 638 645 1 2 627 64b 1",
   "2 627 64b 13 3 62a 62c 645 1 3 62a 62d 62c 1 3 62a 62d 62c 1 3 62a 62d 645 1 3 62a 62e 645 1",
   "3 62a 645 62c 1 3 62a 645 62d 1 3 62a 645 62e 1 3 62c 645 62d 1 3 62c 645 62d 1 3 62d 645 64a",
   "1 3 62d 645 649 1 3 633 62d 62c 1 3 633 62c 62d 1 3 633 62c 649 1 3 633 645 62d 1 3 633 645",
   "62d 1 3 633 645 62c 1 3 633 645 645 1 3 633 645 645 1 3 635 62d 62d 1 3 635 62d 62d 1 3 635",
   "645 645 1 3 634 62d 645 1 3 634 62d 645 1 3 634 62c 64a 1 3 634 645 62e 1 3 634 645 62e 1 3",
   "634 645 645 1 3 634 645 645 1 3 636 62d 649 1 3 636 62e 645 1 3 636 62e 645 1 3 637 645 62d 1",
   "3 637 645 62d 1 3 637 645 645 1 3 637 645 64a 1 3 639 62c 645 1 3 639 645 645 1 3 639 645 645",
   "1 3 639 645 649 1 3 63a 645 645 1 3 63a 645 64a 1 3 63a 645 649 1 3 641 62e 645 1 3 641 62e",
   "645 1 3 642 645 62d 1 3 642 645 645 1 3 644 62d 645 1 3 644 62d 64a 1 3 644 62d 649 1 3 644",
   "62c 62c 1 3 644 62c 62c 1 3 644 62e 645 1 3 644 62e 645 1 3 644 645 62d 1 3 644 645 62d 1 3",
   "645 62d 62c 1 3 645 62d 645 1 3 645 62d 64a 1 3 645 62c 62d 1 3 645 62c 645 1 3 645 62e 62c 1",
   "3 645 62e 645 3 3 645 62c 62e 1 3 647 645 62c 1 3 647 645 645 1 3 646 62d 645 1 3 646 62d 649",
   "1 3 646 62c 645 1 3 646 62c 645 1 3 646 62c 649 1 3 646 645 64a 1 3 646 645 649 1 3 64a 645",
   "645 1 3 64a 645 645 1 3 628 62e 64a 1 3 62a 62c 64a 1 3 62a 62c 649 1 3 62a 62e 64a 1 3 62a",
   "62e 649 1 3 62a 645 64a 1 3 62a 645 649 1 3 62c 645 64a 1 3 62c 62d 649 1 3 62c 645 649 1 3",
   "633 62e 649 1 3 635 62d 64a 1 3 634 62d 64a 1 3 636 62d 64a 1 3 644 62c 64a 1 3 644 645 64a 1",
   "3 64a 62d 64a 1 3 64a 62c 64a 1 3 64a 645 64a 1 3 645 645 64a 1 3 642 645 64a 1 3 646 62d 64a",
   "1 3 642 645 62d 1 3 644 62d 645 1 3 639 645 64a 1 3 643 645 64a 1 3 646 62c 62d 1 3 645 62e",
   "64a 1 3 644 62c 645 1 3 643 645 645 1 3 644 62c 645 1 3 646 62c 62d 1 3 62c 62d 64a 1 3 62d",
   "62c 64a 1 3 645 62c 64a 1 3 641 645 64a 1 3 628 62d 64a 1 3 643 645 645 1 3 639 62c 645 1 3",
   "635 645 645 1 3 633 62e 64a 1 3 646 62c 64a 29 3 635 644 6d2 1 3 642 644 6d2 1 4 627 644 644",
   "647 1 4 627 643 628 631 1 4 645 62d 645 62f 1 4 635 644 639 645 1 4 631 633 648 644 1 4 639",
   "644 64a 647 1 4 648 633 644 645 1 3 635 644 649 1 12 635 644 649 20 627 644 644 647 20 639",
   "644 64a 647 20 648 633 644 645 1 8 62c 644 20 62c 644 627 644 647 1 4 631 6cc 627 644 4d 2 20",
   "305 1 2 20 305 1 2 20 305 1 2 20 305 24 2 20 64b 1 2 640 64b 1 2 20 64c 2 2 20 64d 2 2 20 64e",
   "1 2 640 64e 1 2 20 64f 1 2 640 64f 1 2 20 650 1 2 640 650 1 2 20 651 1 2 640 651 1 2 20 652 1",
   "2 640 652 76 2 644 622 1 2 644 622 1 2 644 623 1 2 644 623 1 2 644 625 1 2 644 625 1 2 644",
   "627 1 2 644 627 e7 2 20 304 d17b 2 1d157 1d165 1 2 1d158 1d165 1 3 1d158 1d165 1d16e 1 3",
   "1d158 1d165 1d16f 1 3 1d158 1d165 1d170 1 3 1d158 1d165 1d171 1 3 1d158 1d165 1d172 57 2",
   "1d1b9 1d165 1 2 1d1ba 1d165 1 3 1d1b9 1d165 1d16e 1 3 1d1ba 1d165 1d16e 1 3 1d1b9 1d165 1d16f",
   "1 3 1d1ba 1d165 1d16f 1f41 2 30 2c 1 2 31 2c 1 2 32 2c 1 2 33 2c 1 2 34 2c 1 2 35 2c 1 2 36",
   "2c 1 2 37 2c 1 2 38 2c 1 2 39 2c 6 3 28 61 29 1 3 28 62 29 1 3 28 63 29 1 3 28 64 29 1 3 28",
   "65 29 1 3 28 66 29 1 3 28 67 29 1 3 28 68 29 1 3 28 69 29 1 3 28 6a 29 1 3 28 6b 29 1 3 28 6c",
   "29 1 3 28 6d 29 1 3 28 6e 29 1 3 28 6f 29 1 3 28 70 29 1 3 28 71 29 1 3 28 72 29 1 3 28 73 29",
   "1 3 28 74 29 1 3 28 75 29 1 3 28 76 29 1 3 28 77 29 1 3 28 78 29 1 3 28 79 29 1 3 28 7a 29 1",
   "3 3014 73 3015 3 2 63 64 1 2 77 7a 1c 2 68 76 1 2 6d 76 1 2 73 64 1 2 73 73 1 3 70 70 76 1 2",
   "77 63 1b 2 6d 63 1 2 6d 64 1 2 6d 72 24 2 64 6a 70 2 307b 304b 1 2 30b3 30b3 3f 3 3014 672c",
   "3015 1 3 3014 4e09 3015 1 3 3014 4e8c 3015 1 3 3014 5b89 3015 1 3 3014 70b9 3015 1 3 3014",
   "6253 3015 1 3 3014 76d7 3015 1 3 3014 52dd 3015 1 3 3014 6557 3015"]

/-- What a character gives way to, if it does. -/
def replacement? (c : Char) : Option (List Char) :=
  match runs.findSome? (·.replace? c.toNat) with
  | some target => some [Char.ofNat target]
  | none => (sequences.lookup c.toNat).map fun codes => codes.map Char.ofNat

/-- What becomes of a character. -/
def fate (c : Char) : Fate :=
  if keptChars.contains c then .kept
  else if droppedChars.contains c then .dropped
  else match replacement? c with
    | some others => .replaced others
    | none => .refused

/-- A text with every character replaced by what becomes of it, unless one may not occur. -/
def map? : List Char → Option (List Char)
  | [] => some []
  | c :: rest =>
    match fate c with
    | .kept => (map? rest).map (c :: ·)
    | .dropped => map? rest
    | .replaced others => (map? rest).map (others ++ ·)
    | .refused => none

end PeerTrust.Domain
