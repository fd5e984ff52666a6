import Mathlib.Data.List.Forall2
import PeerTrust.Proofs.Outcome

/-!
# Lists that are read item by item

Chains, extensions and names are read by reading each item of a list, and one item that cannot be
read spoils the whole. What is read corresponds to its sources in both directions.
-/

namespace PeerTrust

section

variable {α β : Type} {read : α → Option β}

/-- A list is read when its first item and the others are. -/
theorem mapM_cons_eq_some {a : α} {sources : List α} {items : List β} :
    (a :: sources).mapM read = some items ↔
      ∃ b rest, read a = some b ∧ sources.mapM read = some rest ∧ items = b :: rest := by
  rw [List.mapM_cons]
  constructor
  · intro h
    obtain ⟨b, hb, h⟩ := Option.bind_eq_some_iff.mp h
    obtain ⟨rest, hrest, h⟩ := Option.bind_eq_some_iff.mp h
    exact ⟨b, rest, hb, hrest, (Option.some.inj h).symm⟩
  · rintro ⟨b, rest, hb, hrest, rfl⟩
    rw [hb, hrest]
    rfl

/-- Every source is read as one of the items. -/
theorem exists_item_of_mapM {sources : List α} {items : List β} (h : sources.mapM read = some items)
    {a : α} (ha : a ∈ sources) : ∃ b ∈ items, read a = some b := by
  induction sources generalizing items with
  | nil => cases ha
  | cons first sources ih =>
    obtain ⟨b, rest, hb, hrest, rfl⟩ := mapM_cons_eq_some.mp h
    rcases List.mem_cons.mp ha with rfl | ha
    · exact ⟨b, List.mem_cons_self, hb⟩
    · obtain ⟨item, hitem, hread⟩ := ih hrest ha
      exact ⟨item, List.mem_cons_of_mem _ hitem, hread⟩

/-- Every item is what one of the sources reads as. -/
theorem exists_source_of_mapM {sources : List α} {items : List β}
    (h : sources.mapM read = some items) {b : β} (hb : b ∈ items) :
    ∃ a ∈ sources, read a = some b := by
  induction sources generalizing items with
  | nil =>
    cases h
    cases hb
  | cons first sources ih =>
    obtain ⟨item, rest, hitem, hrest, rfl⟩ := mapM_cons_eq_some.mp h
    rcases List.mem_cons.mp hb with rfl | hb
    · exact ⟨first, List.mem_cons_self, hitem⟩
    · obtain ⟨a, ha, hread⟩ := ih hrest hb
      exact ⟨a, List.mem_cons_of_mem _ ha, hread⟩

end

section

variable {ε α β : Type} {read : α → Except ε β}

/-- A list is read when each item is, where an item that cannot be read tells a fault. -/
theorem mapM_eq_ok_iff {sources : List α} {items : List β} :
    sources.mapM read = .ok items ↔ List.Forall₂ (fun a b => read a = .ok b) sources items := by
  induction sources generalizing items with
  | nil =>
    rw [List.mapM_nil, List.forall₂_nil_left_iff]
    exact ⟨fun h => (Except.ok.inj h).symm, fun h => congrArg Except.ok h.symm⟩
  | cons a sources ih =>
    rw [List.mapM_cons, bind_eq_ok_iff, List.forall₂_cons_left_iff]
    constructor
    · rintro ⟨b, hb, h⟩
      obtain ⟨rest, hrest, h⟩ := bind_eq_ok_iff.mp h
      exact ⟨b, rest, hb, ih.mp hrest, (Except.ok.inj h).symm⟩
    · rintro ⟨b, rest, hb, hrest, rfl⟩
      exact ⟨b, hb, bind_eq_ok_iff.mpr ⟨rest, ih.mpr hrest, rfl⟩⟩

/-- The fault of a list is that of the first item that cannot be read. -/
theorem mapM_eq_error_iff {sources : List α} {fault : ε} :
    sources.mapM read = .error fault ↔ ∃ before a after, sources = before ++ a :: after
      ∧ (∀ x ∈ before, ∃ b, read x = .ok b) ∧ read a = .error fault := by
  induction sources with
  | nil =>
    refine iff_of_false nofun ?_
    rintro ⟨before, a, after, hsplit, -⟩
    simp at hsplit
  | cons first sources ih =>
    rw [List.mapM_cons, bind_eq_error_iff]
    constructor
    · rintro (hfirst | ⟨b, hb, hrest⟩)
      · exact ⟨[], first, sources, rfl, nofun, hfirst⟩
      · rcases bind_eq_error_iff.mp hrest with hrest | ⟨_, -, hnone⟩
        · obtain ⟨before, a, after, rfl, hbefore, ha⟩ := ih.mp hrest
          exact ⟨first :: before, a, after, rfl, List.forall_mem_cons.mpr ⟨⟨b, hb⟩, hbefore⟩, ha⟩
        · cases hnone
    · rintro ⟨before, a, after, hsplit, hbefore, ha⟩
      cases before with
      | nil =>
        obtain ⟨rfl, rfl⟩ := List.cons.inj hsplit
        exact .inl ha
      | cons x before =>
        obtain ⟨rfl, hrest⟩ := List.cons.inj hsplit
        obtain ⟨⟨b, hb⟩, hbefore⟩ := List.forall_mem_cons.mp hbefore
        have hrestFault := ih.mpr ⟨before, a, after, hrest, hbefore, ha⟩
        exact .inr ⟨b, hb, bind_eq_error_iff.mpr (.inl hrestFault)⟩

/-- A list is read when each of its items can be. -/
theorem exists_mapM_of_forall {sources : List α} (h : ∀ a ∈ sources, ∃ b, read a = .ok b) :
    ∃ items, sources.mapM read = .ok items := by
  induction sources with
  | nil => exact ⟨[], rfl⟩
  | cons a sources ih =>
    obtain ⟨⟨b, hb⟩, hrest⟩ := List.forall_mem_cons.mp h
    obtain ⟨items, hitems⟩ := ih hrest
    exact ⟨b :: items, mapM_eq_ok_iff.mpr (.cons hb (mapM_eq_ok_iff.mp hitems))⟩

/-- In two lists that correspond, every item of the first belongs to one of the second. -/
theorem exists_image_of_forall₂ {R : α → β → Prop} {sources : List α} {items : List β}
    (h : List.Forall₂ R sources items) {a : α} (ha : a ∈ sources) : ∃ b ∈ items, R a b := by
  induction h with
  | nil => cases ha
  | cons hfirst _ ih =>
    rcases List.mem_cons.mp ha with rfl | ha
    · exact ⟨_, List.mem_cons_self, hfirst⟩
    · obtain ⟨b, hb, hrel⟩ := ih ha
      exact ⟨b, List.mem_cons_of_mem _ hb, hrel⟩

/-- In two lists that correspond, every item of the second belongs to one of the first. -/
theorem exists_of_forall₂ {R : α → β → Prop} {sources : List α} {items : List β}
    (h : List.Forall₂ R sources items) {b : β} (hb : b ∈ items) : ∃ a ∈ sources, R a b := by
  induction h with
  | nil => cases hb
  | cons hfirst _ ih =>
    rcases List.mem_cons.mp hb with rfl | hb
    · exact ⟨_, List.mem_cons_self, hfirst⟩
    · obtain ⟨a, ha, hrel⟩ := ih hb
      exact ⟨a, List.mem_cons_of_mem _ ha, hrel⟩

end

end PeerTrust
