import PeerTrust.Text.Hex

/-!
# Sets of characters

A set of the Unicode standard is kept as its maximal ranges in order. Tables write each range as
the gap before it and its length, in hexadecimal words.
-/

namespace PeerTrust.Text

/-- A set of characters, as ranges with both ends included. -/
structure CharRanges where
  ranges : List (Nat × Nat)

namespace CharRanges

/-- Ranges from alternating gaps and lengths, the first gap counted from `start`. -/
def fromGaps : (start : Nat) → List Nat → List (Nat × Nat)
  | start, gap :: len :: rest =>
    (start + gap, start + gap + len - 1) :: fromGaps (start + gap + len) rest
  | _, _ => []

/-- A set from the lines of its table. -/
def ofGaps (table : List String) : CharRanges :=
  ⟨fromGaps 0 (table.flatMap Hex.numbers)⟩

/-- Whether a character is in the set. -/
def contains (s : CharRanges) (c : Char) : Bool :=
  s.ranges.any fun (low, high) => low ≤ c.toNat && c.toNat ≤ high

end CharRanges

end PeerTrust.Text
