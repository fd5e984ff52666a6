import Mathlib.Data.List.Basic

/-!
# Parts in a row

Texts that are put together from parts with a separator between them: labels of a name, groups of an
address, elements of a list. For an induction on the parts, whether one is the first is told apart
from what comes after it.
-/

namespace PeerTrust

variable {α : Type} {separator c : Char} {write : α → List Char}

/-- Parts in a row, each but the first behind a separator. -/
def row (separator : Char) (write : α → List Char) : (first : Bool) → List α → List Char
  | _, [] => []
  | first, a :: l =>
    (if first then [] else [separator]) ++ (write a ++ row separator write false l)

theorem intercalate_map (separator : Char) (write : α → List Char) (l : List α) :
    List.intercalate [separator] (l.map write) = row separator write true l := by
  have hmore (a : α) (l : List α) :
      List.intercalate [separator] ((a :: l).map write)
        = write a ++ row separator write false l := by
    induction l generalizing a with
    | nil => simp [row]
    | cons b l ih =>
      have hjoin : List.intercalate [separator] ((a :: b :: l).map write)
          = write a ++ separator :: List.intercalate [separator] ((b :: l).map write) := by
        simp
      rw [hjoin, ih]
      rfl
  cases l with
  | nil => rfl
  | cons a l => exact hmore a l

/-- A row holds what its parts hold, and the separator. -/
theorem mem_of_mem_row {first : Bool} {l : List α} (hc : c ∈ row separator write first l) :
    c = separator ∨ ∃ a ∈ l, c ∈ write a := by
  induction l generalizing first with
  | nil => cases hc
  | cons a l ih =>
    rw [row] at hc
    rcases List.mem_append.mp hc with hc | hc
    · cases first with
      | false => exact .inl (List.mem_singleton.mp hc)
      | true => cases hc
    · rcases List.mem_append.mp hc with hc | hc
      · exact .inr ⟨a, List.mem_cons_self, hc⟩
      · refine (ih hc).imp_right ?_
        rintro ⟨b, hb, hmem⟩
        exact ⟨b, List.mem_cons_of_mem _ hb, hmem⟩

end PeerTrust
