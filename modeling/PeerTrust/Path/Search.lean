import PeerTrust.Path.Issuance

/-!
# The search for a path

A path begins at the leaf. At each step an issuer among the trusted certificates is preferred, and
from there on only trusted ones are taken; otherwise the best issuer among the certificates that
came with the leaf extends the path. The search ends well at a trusted certificate that signs
itself or, where partial paths are enough, at any trusted one. Where they are, a leaf that is
trusted itself is a last resort.

Paths are kept with their top first while they grow.
-/

namespace PeerTrust.Path

open PeerTrust.X509

/-- What a search may use. -/
structure Sources where
  trusted : List Certificate
  /-- The certificates that came with the leaf. -/
  offered : List Certificate
  /-- Whether a path may end at any trusted certificate. -/
  partialEnough : Bool
  now : Moment

/-- A path with at least one certificate, the top apart and the others below it in order. -/
structure Stretch where
  top : Certificate
  below : List Certificate

namespace Stretch

/-- The certificates from the top down. -/
def toList (s : Stretch) : List Certificate :=
  s.top :: s.below

/-- The path with another certificate on top. -/
def push (s : Stretch) (c : Certificate) : Stretch :=
  ⟨c, s.toList⟩

/-- How far the top is from the leaf. -/
def depth (s : Stretch) : Nat :=
  s.below.length

/-- The leaf. -/
def leaf (s : Stretch) : Certificate :=
  s.below.getLast?.getD s.top

/-- The path with another leaf. -/
def withLeaf (s : Stretch) (c : Certificate) : Stretch :=
  if s.below.isEmpty then ⟨c, []⟩ else ⟨s.top, s.below.dropLast ++ [c]⟩

/-- Whether a certificate is on the path already. -/
def holds (s : Stretch) (c : Certificate) : Bool :=
  s.toList.any (same c)

end Stretch

namespace Sources

/-- The best issuer among the trusted certificates. -/
def trustedIssuer? (src : Sources) (c : Certificate) : Option Certificate :=
  best? src.now (src.trusted.filter (issues · c))

/-- The best issuer among the offered certificates that are not on the path. -/
def offeredIssuer? (src : Sources) (s : Stretch) : Option Certificate :=
  best? src.now (src.offered.filter fun i => issues i s.top && !s.holds i)

/-- The search among trusted certificates from a trusted one that does not sign itself. `room` is
how many certificates a path may still take. -/
def climb (src : Sources) : (room : Nat) → Stretch → Except Fault Stretch
  | 0, s => .error (.stopped .chainTooLong s.depth)
  | room + 1, s =>
    match src.trustedIssuer? s.top with
    | none => .error (.stopped .issuerMissing s.depth)
    | some i => if isSelfSigned i then .ok (s.push i) else src.climb room (s.push i)

/-- What is left when the path cannot grow: a leaf that is trusted itself, where that is enough. -/
def settle (src : Sources) (s : Stretch) : Except Fault Stretch :=
  match if src.partialEnough then src.trusted.find? (same s.leaf) else none with
  | some c => .ok (s.withLeaf c)
  | none =>
    if isSelfSigned s.top then
      .error (.stopped (if s.below.isEmpty then .selfSignedLeaf else .selfSignedInChain) s.depth)
    else .error (.stopped .localIssuerMissing s.depth)

/-- The search from a certificate that is not known to be trusted. A certificate that signs itself
must be among the trusted ones. -/
def grow (src : Sources) : (room : Nat) → Stretch → Except Fault Stretch
  | 0, s => .error (.stopped .chainTooLong s.depth)
  | room + 1, s =>
    match src.trustedIssuer? s.top with
    | some i =>
      if isSelfSigned s.top then
        if same s.top i then .ok ⟨i, s.below⟩ else src.settle s
      else if isSelfSigned i || src.partialEnough then .ok (s.push i)
      else src.climb room (s.push i)
    | none =>
      if isSelfSigned s.top then src.settle s
      else match src.offeredIssuer? s with
        | some i => src.grow room (s.push i)
        | none => src.settle s

/-- How many certificates a path may have beside the leaf before it must end. -/
def room : Nat := 101

/-- The path from a leaf, top first. -/
def search (src : Sources) (leaf : Certificate) : Except Fault Stretch :=
  src.grow room ⟨leaf, []⟩

end Sources

end PeerTrust.Path
