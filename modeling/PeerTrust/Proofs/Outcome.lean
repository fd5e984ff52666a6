import PeerTrust.Bytes

/-!
# Outcomes of steps that may fail

Readers and constructors are chains of steps, each of which ends in a value or in a fault. A chain
that ends in a value has a value at every step.
-/

namespace PeerTrust

variable {ε ε' α β : Type} {outcome : Except ε α}

/-- A chain of two steps ends in a value when both do. -/
theorem bind_eq_ok_iff {next : α → Except ε β} {b : β} :
    outcome >>= next = .ok b ↔ ∃ a, outcome = .ok a ∧ next a = .ok b := by
  cases outcome with
  | error e =>
    constructor
    · intro h
      cases h
    · rintro ⟨a, h, -⟩
      cases h
  | ok a =>
    constructor
    · intro h
      exact ⟨a, rfl, h⟩
    · rintro ⟨_, ⟨⟩, h⟩
      exact h

/-- A chain of two steps ends in a fault when the first does, or the second after it. -/
theorem bind_eq_error_iff {next : α → Except ε β} {e : ε} :
    outcome >>= next = .error e
      ↔ outcome = .error e ∨ ∃ a, outcome = .ok a ∧ next a = .error e := by
  cases outcome with
  | error e' =>
    change Except.error e' = .error e ↔ _
    simp
  | ok a =>
    change next a = .error e ↔ _
    simp

/-- A value that is changed comes from a value. -/
theorem map_eq_ok_iff {f : α → β} {b : β} :
    outcome.map f = .ok b ↔ ∃ a, outcome = .ok a ∧ f a = b := by
  cases outcome <;> simp [Except.map]

/-- Rewording faults leaves values as they are. -/
theorem mapError_eq_ok_iff {f : ε → ε'} {a : α} :
    outcome.mapError f = .ok a ↔ outcome = .ok a := by
  cases outcome with
  | error _ => exact iff_of_false nofun nofun
  | ok b =>
    change Except.ok b = .ok a ↔ Except.ok b = .ok a
    rw [Except.ok.injEq, Except.ok.injEq]

/-- Rewording faults leaves no fault as it is, and makes none. -/
theorem mapError_eq_error_iff {f : ε → ε'} {e' : ε'} :
    outcome.mapError f = .error e' ↔ ∃ e, outcome = .error e ∧ f e = e' := by
  cases outcome with
  | error e =>
    change Except.error (f e) = .error e' ↔ _
    simp
  | ok a =>
    change Except.ok a = .error e' ↔ _
    simp

/-- The value of a chain of two steps, where it has one. -/
theorem toOption_bind (outcome : Except ε α) (next : α → Except ε β) :
    (outcome >>= next).toOption = outcome.toOption.bind fun a => (next a).toOption := by
  cases outcome <;> rfl

theorem toOption_map (f : α → β) (outcome : Except ε α) :
    (outcome.map f).toOption = outcome.toOption.map f := by
  cases outcome <;> rfl

theorem toOption_mapError (f : ε → ε') (outcome : Except ε α) :
    (outcome.mapError f).toOption = outcome.toOption := by
  cases outcome <;> rfl

theorem toOption_eq_none_iff : outcome.toOption = none ↔ ∃ e, outcome = .error e := by
  cases outcome with
  | error e => exact iff_of_true rfl ⟨e, rfl⟩
  | ok a => simp [Except.toOption]

theorem toOption_eq_some_iff {a : α} : outcome.toOption = some a ↔ outcome = .ok a := by
  cases outcome <;> simp [Except.toOption]

/-- The value of an outcome, where it has one. -/
theorem eq_ok_of_mem_toOption {a : α} (h : a ∈ outcome.toOption) : outcome = .ok a := by
  cases outcome with
  | error _ => cases h
  | ok b => rw [Option.some.inj h]

end PeerTrust
