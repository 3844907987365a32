import Mathlib.Data.List.Forall2

/-!
# Outcomes of steps that can fail

What a chain of such steps comes to says what each of them came to: a chain is good if all of them
are, and a fault of the chain is the fault of one of them. Readers, decoders and the walk over a
tree are opened with these lemmas.
-/

namespace Stepwise

variable {ε δ α β : Type}

theorem bind_eq_ok_iff {outcome : Except ε α} {next : α → Except ε β} {value : β} :
    (outcome >>= next) = .ok value ↔ ∃ a, outcome = .ok a ∧ next a = .ok value := by
  cases outcome with
  | ok a => exact ⟨fun h => ⟨a, rfl, h⟩, fun ⟨_, eq, h⟩ => by cases eq; exact h⟩
  | error fault => exact ⟨nofun, nofun⟩

theorem exists_of_bind_eq_ok {x : Except ε α} {f : α → Except ε β} {b : β}
    (h : x.bind f = .ok b) : ∃ a, x = .ok a ∧ f a = .ok b :=
  bind_eq_ok_iff.1 h

theorem fault_of_bind_eq_error {x : Except ε α} {f : α → Except ε β} {fault : ε}
    (h : x.bind f = .error fault) : x = .error fault ∨ ∃ a, x = .ok a ∧ f a = .error fault := by
  cases x with
  | ok a => exact .inr ⟨a, rfl, h⟩
  | error e => exact .inl (congrArg _ (Except.error.inj h))

theorem map_eq_ok_iff {f : α → β} {outcome : Except ε α} {value : β} :
    outcome.map f = .ok value ↔ ∃ a, outcome = .ok a ∧ f a = value := by
  cases outcome <;> simp [Except.map]

theorem mapError_eq_error_iff {f : ε → δ} {outcome : Except ε α} {reported : δ} :
    outcome.mapError f = .error reported ↔ ∃ e, outcome = .error e ∧ f e = reported := by
  cases outcome <;> simp [Except.mapError]

theorem mapError_eq_ok_iff {f : ε → δ} {outcome : Except ε α} {value : α} :
    outcome.mapError f = .ok value ↔ outcome = .ok value := by
  cases outcome <;> simp [Except.mapError]

theorem toOption_eq_some_iff {outcome : Except ε α} {value : α} :
    outcome.toOption = some value ↔ outcome = .ok value := by
  cases outcome <;> simp [Except.toOption]

/-- A list of outcomes is good if each of them is. -/
theorem mapM_eq_ok_iff {f : α → Except ε β} {items : List α} {values : List β} :
    items.mapM f = .ok values ↔
      List.Forall₂ (fun item value => f item = .ok value) items values := by
  induction items generalizing values with
  | nil =>
    rw [List.forall₂_nil_left_iff, List.mapM_nil]
    exact ⟨fun h => (Except.ok.inj h).symm, fun h => congrArg _ h.symm⟩
  | cons item rest ih =>
    simp only [List.mapM_cons, bind_eq_ok_iff, List.forall₂_cons_left_iff, ih]
    constructor
    · rintro ⟨value, first, tail, others, eq⟩
      exact ⟨value, tail, first, others, (Except.ok.inj eq).symm⟩
    · rintro ⟨value, tail, first, others, rfl⟩
      exact ⟨value, first, tail, others, rfl⟩

end Stepwise
