import PeerTrust.Text.Ranges

/-!
# Classes of characters

What the rules for labels need to know of a character: whether it is a mark, in which direction it
is written, and whether it joins its neighbours. The sets are exact on the characters that can stand
in a domain name; of others nothing is said.
-/

namespace PeerTrust.Domain

open PeerTrust.Text (CharRanges)

/-- The marks. -/
def markChars : CharRanges := CharRanges.ofGaps
  ["300 70 113 7 107 2d 1 1 1 2 1 2 1 1 48 b 30 15 10 1 65 7 2 6 2 2 1 4 23 1 1e 1b 5b b 3a 9 9 1",
   "18 4 1 9 1 3 1 5 2b 3 3b 9 2a 3a 36 3 1 12 1 7 a 2 1d 3 38 1 1 10 9 1 a 2 1a 6 38 16 1e 2 3 1",
   "b 3 38 1 1 10 14 2 16 a 38 1 1 1a a 2 1e 1 3b 10 9 1 28 5 37 1 1 19 b 2 1d 3 38 1 1 19 b 2 f",
   "11 37 2 1 10 9 1 a 2 1d 3 46 16 12 2 3d 1 2 7 c 8 62 1 2 9 b 7 49 2 1b 1 1 1 1 1 4 2 31 14 1",
   "2 5 30 9 1 64 14 17 4 4 3 1 3 2 7 3 4 d c 1 1 a 4 2bf 3 3b2 4 1c 3 1d 2 1e 2 42 1e 9 1 a7 2",
   "22 1 76 1c db 5 39 2b 30 55 2f 11 26 9 c 3 1e d 38 e 30 14 98 3 1 15 4 1 6 1 2 3 c6 40 2d0 21",
   "bfe 3 8d 1 60 20 22a 6 69 2 75d4 4 1 a 20 2 50 2 110 1 3 1 4 1 17 5 4 1 53 2 32 12 1a 12 d 1",
   "26 8 19 d 2c 4 2f e 24 1 43 e c 1 8 2 2d 3 32 1 1 3 2 2 5 2 1 1 29 5 5 2 ec 8 1 2 4f30 1 301",
   "10 3cd 1 e2 1 95 5 686 f 28 8 a5 2 23d 4 41 5 13d 2 4d 6 46 b 31 4 7a 3 35 f 29 1 2 2 a 4 2d",
   "b 7 1 3d 3 24 e 10 2 2c 1 c 3 30 e 8 4 1 2 5c c 6 1 2 1 9d c 15 4 37 2 1 10 9 1 a 13 43 19 1",
   "1 e 2 52 12 17 1 51 14 eb 12 1b 2 52 11 6a d 65 f 100 f f5 f 1 1 1 2 8d 10 3 1 1c a 28 7 1 4",
   "8 1 9 b 2e 10 c6 8 c7 11 52 25 7a 15 1 1 42 e 15b 4 9 2 1 1 30 f 17 1 14e5 1 6 f 2cc8 12 9c0",
   "5 3b 7 418 1 1 42 51 e 4cab 2 1261 47 21e 5 3 16 2 7 1e 4 94 3 7bb 37 4 32 8 1 e 1 16 15 550",
   "90 a0 7 177 1 3d 4 1fc 4 fe 2 f3 1 2 1 7 2 5 1 1da 7 6d 7"]

/-- The letters that are written from right to left. -/
def rightChars : CharRanges := CharRanges.ofGaps
  ["5be 1 1 1 2 1 2 1 9 25 13 1 2 1 1 1 d 30 22 3 1 65 f 2 7 2 a 17 1 1e 1d 59 b 3a 9 2 4 1 3 18",
   "4 1 9 1 3 1 7 29 5 32 10 2a f2e8 11 2b0 1 98c 11c 4 e1 f 26 a a5 6 4b a 1e4 26 6 1f 21 f0 2a",
   "3 1b 38 46 b 31 4 71 d809 d0 52 22 7 3f3"]

/-- The digits and signs with the direction of Arabic numbers. -/
def arabicDigits : CharRanges := CharRanges.ofGaps
  ["660 a 1 2 106c3 1a 116 1f"]

/-- The digits with the direction of European numbers. -/
def europeanDigits : CharRanges := CharRanges.ofGaps
  ["30 a 6b6 a fbe7 1b"]

/-- The signs that take their direction from around them. -/
def neutralChars : CharRanges := CharRanges.ofGaps
  ["0 9 5 e 5 f a 27 1a 5d 1f 1 1c1 2 7 e 2 1c 1 11 75 1 80 1 193 6 76 2 1 2 1 1 1 2 5a 1 73 1 a",
   "1 10c 4 1f8 2 7 1 f5 1 101 8 7d 7 1c0 1 fa 4 452 a 66 1 29a 2 13e 1 14 1b 135 6 98 22 60c b6",
   "42 4a 3c 1ac 45 1a 1 316 1 153 100 300 e5 6 e 7 100 205 3 19 f 1 6 1 5 3 60 1 5a 1 c4 26 1bda",
   "40 5690 37 146 3 63 1 a 2 80 22 66 1 9f 4 c 2 3a 4 2f2 2 5057 23d 45 2 2ba 1 3e 4d 3 11 77e 1",
   "219 7 22e 1 161 9 179 14 5fa d 968 1d 4ff0 1 5c1d 2f1 2f8 59 3 1 ba 57 fa8 1 bf0 240 3d 3 3d",
   "1 b2 99b"]

/-- The marks that take no room of their own. -/
def nonspacingChars : CharRanges := CharRanges.ofGaps
  ["300 70 113 7 107 2d 1 1 1 2 1 2 1 1 48 b 30 15 10 1 65 7 2 6 2 2 1 4 23 1 1e 1b 5b b 3a 9 9 1",
   "18 4 1 9 1 3 1 5 2b 3 3b 9 2a 39 37 1 1 1 4 8 4 1 3 7 a 2 1d 1 3a 1 4 4 8 1 14 2 1a 5 39 1 4",
   "11 1e 2 3 1 b 2 39 1 4 8 4 1 14 2 16 8 3a 1 2 1 1 4 8 a b 2 1e 1 3d 1 c 1 32 1 3 1 37 1 1 3 5",
   "11 b 2 1d 1 3a 1 f 2 14 2 1c 2 39 2 4 4 8 1 14 2 1d 1 48 1 7 5 5a 1 2 7 c 8 62 1 2 9 b 7 49 2",
   "1b 1 1 1 1 1 37 e 1 5 1 2 5 30 9 1 66 4 1 6 1 2 2 2 19 2 4 3 10 4 d 1 2 2 6 1 f 1 2bf 3 3b2 3",
   "1d 2 1e 2 1e 2 43 7 8 1 2 b 9 1 a7 2 22 1 76 3 4 2 9 1 6 3 db 2 2 1 3a 1 1 9 1 1 2 8 6 d 30",
   "54 30 1 1 5 1 1 5 1 28 9 c 2 20 4 2 2 1 3 38 1 1 2 3 1 1 3 3a 8 2 2 98 3 1 d 1 7 4 1 6 1 3 2",
   "c6 40 2d0 21 bfe 3 8d 1 60 20 22a 4 6b 2 75d4 4 1 a 20 2 50 2 110 1 3 1 4 1 19 2 5 1 97 2 1a",
   "12 d 1 26 8 19 b 2e 3 30 1 2 4 2 2 27 1 43 6 2 2 2 2 c 1 8 1 2f 1 33 1 1 3 2 2 5 2 1 1 2a 2 8",
   "1 ee 1 2 1 4 1 4f30 1 301 10 3cd 1 e2 1 95 5 686 f 28 8 a5 2 23d 4 41 5 13d 2 4d 6 46 b 31 4",
   "7b 1 36 f 29 1 2 2 a 3 31 4 2 2 7 1 3d 3 24 5 1 8 3e 1 c 2 34 9 a 4 2 1 5f 3 2 1 1 2 6 1 2 1",
   "9d 1 3 8 15 2 39 2 3 1 25 f 46 6 d 1 1 1 1 1 e 2 55 8 2 3 1 1 17 1 54 6 1 1 4 2 1 2 ee 4 6 2",
   "1 2 1b 2 55 8 2 1 1 2 6a 1 1 1 2 6 1 1 65 3 2 4 1 5 103 9 1 2 100 2 1 1 4 1 90 8 4 1 20 6 2 2",
   "28 6 2 4 8 1 9 6 2 3 2e d 1 2 c6 1 1 3 1 1 c9 e 54 16 2 7 1 2 1 2 7a 15 1 1 48 2 3 1 1 1 15b",
   "2 b 2 34 5 5 1 1 1 17 1 14e5 1 6 f 2cc8 c 3 3 9c0 5 3b 7 418 1 3f 4 51 1 4cb8 2 1261 47 220 3",
   "11 8 2 7 1e 4 94 3 7bb 37 4 32 8 1 e 1 16 15 550 90 a0 7 177 1 3d 4 1fc 4 fe 2 f3 1 2 1 7 2 5",
   "1 1da 7 6d 7"]

/-- The letters that join what follows them. -/
def leftJoining : CharRanges := CharRanges.ofGaps
  ["620 1 5 1 1 1 1 5 4 d 1 7 1 2 23 2 9 f 12 26 1 2 9 1 1 1 1 2 28 3 2 1 12 3 5 4 1 9 1 1 1 1 1",
   "2 1f b 3 f 2 4 1 1 2 3 2 6 4a 21 56 5 2 1 1 a 1 1 a 1 1 4 2 1 1d 1 2 5 1 1 10 a 5 2 2 6 1 f",
   "f3e 1 18 59 e 22 1 1 8f95 33 624d 5 8 1 5 a 1 3 a 4 91 1 1 1 3 3 1 2 1 1 2 1 1c 2 151 22 1 1",
   "19f 2 1 2 68 3 1 11 c 3 1c 4 2 c 2e 1 1 2 4 1 2 2 1 2 1 1 2 1 5 2 d956 22"]

/-- The letters that join what comes before them. -/
def rightJoining : CharRanges := CharRanges.ofGaps
  ["620 1 1 1e 1 a 23 2 1 3 5 5b 1 1 18 2 a 3 2 1 10 1 1 1e 1d 33 4a 21 55 19 7 1 1 4 1 1c 3 1 2",
   "7 10 d 1 1b f3e 1 18 59 e 22 1 1 8f95 32 624e 6 1 1 1 2 3 9 1 a 2 1 6 5 90 12 17 6 152 23 19e",
   "3 1 2 68 15 c 4 1b 12 2e 1 1 5 1 8 1 4 4 2 d957 22"]

/-- The characters that joining passes over. -/
def transparentJoining : CharRanges := CharRanges.ofGaps
  ["300 70 113 7 107 2d 1 1 1 2 1 2 1 1 48 b 30 15 10 1 65 7 2 6 2 2 1 4 23 1 1e 1b 5b b 3a 9 9 1",
   "18 4 1 9 1 3 1 5 2b 3 3b 9 2a 39 37 1 1 1 4 8 4 1 3 7 a 2 1d 1 3a 1 4 4 8 1 14 2 1a 5 39 1 4",
   "11 1e 2 3 1 b 2 39 1 4 8 4 1 14 2 16 8 3a 1 2 1 1 4 8 a b 2 1e 1 3d 1 c 1 32 1 3 1 37 1 1 3 5",
   "11 b 2 1d 1 3a 1 2 1 6 1 5 2 14 2 1c 2 39 2 4 4 8 1 14 2 1d 1 48 1 7 5 5a 1 2 7 c 8 62 1 2 9",
   "b 7 49 2 1b 1 1 1 1 1 37 e 1 5 1 2 5 30 9 1 66 4 1 6 1 2 2 2 19 2 4 3 10 4 d 1 2 2 6 1 f 1",
   "2bf 3 3b2 3 1d 2 1e 2 1e 2 43 7 8 1 2 b 9 1 a7 2 22 1 76 3 4 2 9 1 6 3 db 2 2 1 3a 1 1 9 1 1",
   "2 8 6 d 30 54 30 1 1 5 1 1 5 1 28 9 c 2 20 4 2 2 1 3 38 1 1 2 3 1 1 3 3a 8 2 2 98 3 1 d 1 7 4",
   "1 6 1 3 2 c6 40 2d0 21 bfe 3 8d 1 60 20 22a 4 6b 2 75d4 4 1 a 20 2 50 2 110 1 3 1 4 1 19 2 5",
   "1 97 2 1a 12 d 1 26 8 19 b 2e 3 30 1 2 4 2 2 27 1 43 6 2 2 2 2 c 1 8 1 2f 1 33 1 1 3 2 2 5 2",
   "1 1 2a 2 8 1 ee 1 2 1 4 1 4f30 1 301 10 3cd 1 e2 1 95 5 686 f 28 8 a5 2 23d 4 41 5 13d 2 4d 6",
   "46 b 31 4 7b 1 36 f 29 1 2 2 a 3 31 4 2 2 7 1 3d 3 24 5 1 8 3e 1 c 2 34 9 a 4 2 1 5f 3 2 1 1",
   "2 6 1 2 1 9d 1 3 8 15 2 39 2 3 1 25 f 46 6 d 1 1 1 1 1 e 2 55 8 2 3 1 1 17 1 54 6 1 1 4 2 1 2",
   "ee 4 6 2 1 2 1b 2 55 8 2 1 1 2 6a 1 1 1 2 6 1 1 65 1 1 1 2 4 1 5 103 9 1 2 100 2 1 1 4 1 90 8",
   "4 1 20 a 28 6 2 4 8 1 9 6 2 3 2e d 1 2 c6 1 1 3 1 1 c9 e 1 1 52 16 2 7 1 2 1 2 7a 15 1 1 48 2",
   "3 1 1 1 15b 2 b 2 34 5 5 1 1 1 17 1 14e5 1 6 f 2cc8 c 3 3 9c0 5 3b 7 418 1 3f 4 51 1 4cb8 2",
   "1261 47 220 3 11 8 2 7 1e 4 94 3 7bb 37 4 32 8 1 e 1 16 15 550 90 a0 7 177 1 3d 4 1fc 4 fe 2",
   "f3 1 2 1 7 2 5 1 1da 7 6d 8"]

/-- The signs that silence a vowel. -/
def viramaChars : CharRanges := CharRanges.ofGaps
  ["94d 1 7f 1 7f 1 7f 1 7f 1 7f 1 7f 1 7f 1 6d 2 10 1 7c 1 6f 1 7f 1 c9 1 b4 2 6d9 2 1e 1 9d 1",
   "28d 1 e3 1 65 2 46 2 118b 1 7a86 1 25 1 97 1 8e 1 6c 1 135 1 f6 1 5e51 1 606 1 29 1 e 1 39 1",
   "79 2 8b 1 74 1 b4 1 62 1 80 3 71 1 7f 1 fc 1 7f 1 76 1 74 1 10d 1 103 2 a1 1 53 1 12 1 51 1",
   "1a5 1 104 2 51 1 1a9 2 41ec 1"]

/-- The direction in which a character is written. -/
inductive Direction where
  | left
  | right
  | arabicNumber
  | europeanNumber
  | neutral
  | nonspacing
  deriving DecidableEq, Repr

/-- The direction of a character. -/
def direction (c : Char) : Direction :=
  if rightChars.contains c then .right
  else if arabicDigits.contains c then .arabicNumber
  else if europeanDigits.contains c then .europeanNumber
  else if neutralChars.contains c then .neutral
  else if nonspacingChars.contains c then .nonspacing
  else .left

end PeerTrust.Domain
