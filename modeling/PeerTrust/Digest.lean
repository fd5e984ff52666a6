import PeerTrust.Digest.Sha1
import PeerTrust.Digest.Sha2

/-!
# Digest algorithms of pins

The four algorithms that a pin can name, the word each is written with, and the octets each makes
of a message. Comparison of digests is by length first, then octet for octet.
-/

namespace PeerTrust

/-- A digest algorithm that a pin can name. -/
inductive DigestAlgorithm where
  | sha1
  | sha256
  | sha384
  | sha512
  deriving DecidableEq, Repr

namespace DigestAlgorithm

/-- The word in front of the slash of a pin. -/
def word : DigestAlgorithm → String
  | sha1 => "sha1"
  | sha256 => "sha256"
  | sha384 => "sha384"
  | sha512 => "sha512"

/-- The algorithms, in order of digest length. -/
def all : List DigestAlgorithm :=
  [sha1, sha256, sha384, sha512]

/-- The algorithm that a word names. -/
def ofWord? (word : String) : Option DigestAlgorithm :=
  all.find? (·.word = word)

/-- How many octets a digest has. -/
def size : DigestAlgorithm → Nat
  | sha1 => 20
  | sha256 => 32
  | sha384 => 48
  | sha512 => 64

/-- The digest of a message. -/
def digest : DigestAlgorithm → Bytes → Bytes
  | sha1 => Digest.sha1
  | sha256 => Digest.sha256
  | sha384 => Digest.sha384
  | sha512 => Digest.sha512

@[simp] theorem ofWord?_word (alg : DigestAlgorithm) : ofWord? alg.word = some alg := by
  cases alg <;> decide

theorem length_digest (alg : DigestAlgorithm) (message : Bytes) :
    (alg.digest message).length = alg.size := by
  cases alg
  · exact Digest.length_sha1 message
  · exact Digest.length_sha256 message
  · exact Digest.length_sha384 message
  · exact Digest.length_sha512 message

end DigestAlgorithm

/-- Equality of octet strings that looks at every octet when the lengths agree, so that the time
taken tells nothing but the lengths. -/
def sameOctets (a b : Bytes) : Bool :=
  a.length == b.length && (a.zip b).foldl (fun d (x, y) => d ||| (x ^^^ y)) (0 : UInt8) == 0

/-- The differences of pairs leave no bit exactly when the octets of every pair agree. -/
theorem foldl_difference_eq_zero_iff (pairs : List (UInt8 × UInt8)) (d : UInt8) :
    pairs.foldl (fun d (x, y) => d ||| (x ^^^ y)) d = 0 ↔ d = 0 ∧ ∀ p ∈ pairs, p.1 = p.2 := by
  induction pairs generalizing d with
  | nil => simp
  | cons p rest ih =>
    rw [List.foldl_cons, ih]
    simp only [UInt8.or_eq_zero_iff, UInt8.xor_eq_zero_iff, List.forall_mem_cons, and_assoc]

/-- Octet strings of one length are equal when they agree pair by pair. -/
theorem eq_of_forall_zip {a b : Bytes} (hlen : a.length = b.length)
    (hpairs : ∀ p ∈ a.zip b, p.1 = p.2) : a = b := by
  apply List.ext_getElem hlen
  intro i ha hb
  have hzip : i < (a.zip b).length := by
    rw [List.length_zip]
    omega
  have hpair := hpairs _ (List.getElem_mem hzip)
  simpa only [List.getElem_zip] using hpair

/-- The comparison finds out exactly whether two octet strings are equal. -/
theorem sameOctets_iff (a b : Bytes) : sameOctets a b = true ↔ a = b := by
  rw [sameOctets, Bool.and_eq_true, beq_iff_eq, beq_iff_eq, foldl_difference_eq_zero_iff]
  constructor
  · rintro ⟨hlen, -, hpairs⟩
    exact eq_of_forall_zip hlen hpairs
  · rintro rfl
    refine ⟨rfl, rfl, ?_⟩
    intro p hp
    obtain ⟨i, hi, rfl⟩ := List.getElem_of_mem hp
    simp

end PeerTrust
