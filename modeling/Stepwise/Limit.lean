import Stepwise.ExpressionError

/-!
# The limit

One expression may need at most a certain number of operations. A configured number that is not
positive stands for the default.
-/

namespace Stepwise

/-- How many operations one expression may need. -/
structure Limit where
  maxOperations : Nat
deriving DecidableEq, Repr

namespace Limit

/-- The number of operations that is allowed where nothing else is configured. -/
def defaultMaximum : Nat := 100

/-- The limit that holds where nothing else is configured. -/
def standard : Limit := ⟨defaultMaximum⟩

instance : Inhabited Limit := ⟨standard⟩

/-- The limit of a configured number. -/
def ofInt (configured : Int) : Limit :=
  if 0 < configured then ⟨configured.toNat⟩ else standard

/-- So many operations are within the limit. -/
def allows (limit : Limit) (count : Nat) : Bool :=
  decide (count ≤ limit.maxOperations)

/-- Fails with both numbers when there are too many operations. -/
def check (limit : Limit) (count : Nat) : Except LoweringFault Unit :=
  if limit.allows count then .ok () else .error (.tooMany count limit.maxOperations)

theorem allows_iff {limit : Limit} {count : Nat} :
    limit.allows count = true ↔ count ≤ limit.maxOperations := by
  simp [allows]

theorem maxOperations_ofInt (n : Int) :
    ((ofInt n).maxOperations : Int) = if 0 < n then n else defaultMaximum := by
  rw [ofInt]
  split
  next positive => exact Int.toNat_of_nonneg (Int.le_of_lt positive)
  next => rfl

end Limit

end Stepwise
