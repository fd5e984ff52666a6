import Mathlib.Data.List.Basic
import PeerTrust.KeySet

/-!
# Sets of keys and the lists that they are made from

A set has the keys of its list, each once, and sets with the same keys are one set.
-/

namespace PeerTrust

namespace KeySet

variable {a b : KeySet}

/-- A set has each key once. -/
theorem nodup_keys (s : KeySet) : s.keys.Nodup := by
  refine s.sorted.imp fun hlt heq => ?_
  rw [heq, Bytes.lt_irrefl] at hlt
  cases hlt

/-- Sets with the same keys are the same list, as both are in order. -/
theorem eq_iff_contains : a = b ↔ ∀ k, a.contains k = b.contains k := by
  constructor
  · rintro rfl k
    rfl
  · intro h
    have hmem (k : PublicKey) : k ∈ a.keys ↔ k ∈ b.keys := by
      rw [← List.contains_iff_mem, ← List.contains_iff_mem]
      exact Bool.eq_iff_iff.mp (h k)
    have hperm : a.keys.Perm b.keys :=
      (List.perm_ext_iff_of_nodup a.nodup_keys b.nodup_keys).mpr hmem
    have hkeys : a.keys = b.keys := by
      refine hperm.eq_of_pairwise (fun x y _ _ hxy hyx => ?_) a.sorted b.sorted
      have hself := Bytes.lt_trans hxy hyx
      rw [Bytes.lt_irrefl] at hself
      cases hself
    obtain ⟨keys, sorted⟩ := a
    cases hkeys
    rfl

/-- The members of a set are those of the list that it was made from. -/
theorem mem_ofList {l : List PublicKey} {k : PublicKey} :
    k ∈ (ofList l).keys ↔ k ∈ l := by
  -- For any set to start with, as it grows with each key.
  have hfold : ∀ s : KeySet, k ∈ (l.foldl insert s).keys ↔ k ∈ s.keys ∨ k ∈ l := by
    induction l with
    | nil => simp
    | cons first l ih =>
      intro s
      rw [List.foldl_cons, ih, insert, mem_place, List.mem_cons, or_comm (a := k = first),
        or_assoc]
  rw [ofList, hfold]
  simp [empty]

/-- A set that is made from a list has no key exactly if the list has none. -/
theorem isEmpty_ofList (l : List PublicKey) : (ofList l).isEmpty = l.isEmpty := by
  rw [Bool.eq_iff_iff, isEmpty, List.isEmpty_iff, List.isEmpty_iff,
    List.eq_nil_iff_forall_not_mem, List.eq_nil_iff_forall_not_mem]
  simp only [mem_ofList]

end KeySet

end PeerTrust
