import PeerTrust.PublicKey

/-!
# Sets of public keys

A set is kept as the strictly increasing list of its keys, so equal sets are equal lists whatever
the order and the repetitions of the list they were made from.
-/

namespace PeerTrust

namespace Bytes

theorem lt_irrefl (a : Bytes) : Bytes.lt a a = false := by
  induction a with
  | nil => rfl
  | cons x xs ih => simp [Bytes.lt, ih]

theorem lt_trans {a b c : Bytes} (h₁ : Bytes.lt a b = true) (h₂ : Bytes.lt b c = true) :
    Bytes.lt a c = true := by
  induction a generalizing b c with
  | nil =>
    cases c with
    | nil => cases b <;> simp [Bytes.lt] at h₁ h₂
    | cons z zs => rfl
  | cons x xs ih =>
    cases b with
    | nil => simp [Bytes.lt] at h₁
    | cons y ys =>
      cases c with
      | nil => simp [Bytes.lt] at h₂
      | cons z zs =>
        simp only [Bytes.lt, Bool.or_eq_true, Bool.and_eq_true, decide_eq_true_eq, beq_iff_eq] at *
        rcases h₁ with h₁ | ⟨rfl, h₁⟩ <;> rcases h₂ with h₂ | ⟨rfl, h₂⟩
        · exact .inl (UInt8.lt_trans h₁ h₂)
        · exact .inl h₁
        · exact .inl h₂
        · exact .inr ⟨rfl, ih h₁ h₂⟩

theorem lt_of_not_lt {a b : Bytes} (h : Bytes.lt a b = false) (ne : a ≠ b) :
    Bytes.lt b a = true := by
  induction a generalizing b with
  | nil =>
    cases b with
    | nil => exact absurd rfl ne
    | cons y ys => simp [Bytes.lt] at h
  | cons x xs ih =>
    cases b with
    | nil => rfl
    | cons y ys =>
      simp only [Bytes.lt, Bool.or_eq_false_iff, Bool.and_eq_false_iff, decide_eq_false_iff_not,
        Bool.or_eq_true, Bool.and_eq_true, decide_eq_true_eq, beq_iff_eq] at *
      by_cases hxy : x = y
      · subst hxy
        refine .inr ⟨rfl, ih ?_ (fun e => ne (e ▸ rfl))⟩
        rcases h.2 with h | h
        · simp at h
        · exact h
      · left
        exact UInt8.lt_of_le_of_ne (UInt8.not_lt.1 h.1) (fun e => hxy e.symm)

end Bytes

/-- A set of public keys. -/
structure KeySet where
  keys : List PublicKey
  /-- The keys strictly increase. -/
  sorted : keys.Pairwise fun a b => Bytes.lt a.der b.der = true
  deriving DecidableEq

namespace KeySet

/-- A key put into its place in an increasing list, unless it is there. -/
def place (k : PublicKey) : List PublicKey → List PublicKey
  | [] => [k]
  | x :: rest =>
    if k = x then x :: rest
    else if Bytes.lt k.der x.der then k :: x :: rest
    else x :: place k rest

theorem mem_place {k x : PublicKey} {l : List PublicKey} : x ∈ place k l ↔ x = k ∨ x ∈ l := by
  induction l with
  | nil => simp [place]
  | cons y rest ih =>
    simp only [place]
    split
    · rename_i h
      subst h
      simp
    · split
      · simp
      · simp only [List.mem_cons, ih]
        exact or_left_comm

theorem pairwise_place {k : PublicKey} {l : List PublicKey}
    (h : l.Pairwise fun a b => Bytes.lt a.der b.der = true) :
    (place k l).Pairwise fun a b => Bytes.lt a.der b.der = true := by
  induction l with
  | nil => simp [place]
  | cons y rest ih =>
    have ⟨below, tail⟩ := List.pairwise_cons.1 h
    simp only [place]
    split
    · exact h
    · rename_i ne
      split
      · rename_i lt
        refine List.pairwise_cons.2 ⟨fun z hz => ?_, h⟩
        rcases List.mem_cons.1 hz with rfl | hz
        · exact lt
        · exact Bytes.lt_trans lt (below z hz)
      · rename_i nlt
        refine List.pairwise_cons.2 ⟨fun z hz => ?_, ih tail⟩
        rcases mem_place.1 hz with rfl | hz
        · refine Bytes.lt_of_not_lt (by simpa using nlt) fun e => ne ?_
          cases z
          cases y
          simp_all
        · exact below z hz

/-- The set without keys. -/
def empty : KeySet :=
  ⟨[], List.Pairwise.nil⟩

/-- A set with one more key. -/
def insert (s : KeySet) (k : PublicKey) : KeySet :=
  ⟨place k s.keys, pairwise_place s.sorted⟩

/-- The set of the keys of a list. -/
def ofList (l : List PublicKey) : KeySet :=
  l.foldl insert empty

/-- Whether a key is in a set. -/
def contains (s : KeySet) (k : PublicKey) : Bool :=
  s.keys.contains k

/-- Whether a set has no key. -/
def isEmpty (s : KeySet) : Bool :=
  s.keys.isEmpty

end KeySet

end PeerTrust
