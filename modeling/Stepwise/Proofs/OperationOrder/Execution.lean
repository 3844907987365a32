import Mathlib.Data.List.Induction
import Mathlib.Data.List.Nodup
import Stepwise.Execution
import Stepwise.Proofs.OperationOrder

/-!
# What passes the order check can be executed

The order check accepts a list exactly if it is topological: no identifier is used twice, and each
operand that is a reference names an operation at a smaller index. These are also the lists that an
executor runs to their end (`checkOrder_decides_execution`). Both sides are compared with
`IsReady`, which says what has to hold when the turn of an operation comes: appending an operation
adds the same condition to each of them.
-/

namespace Stepwise

namespace OperationOrder

/-- An operation at an index below `i` has the identifier. -/
def StandsBefore (operations : List Operation) (i : Nat) (id : Id) : Prop :=
  ∃ (j : Nat) (earlier : Operation), j < i ∧ operations[j]? = some earlier ∧ earlier.id = id

/-- No identifier is used twice, and references lead to smaller indices. -/
structure IsTopological (operations : List Operation) : Prop where
  distinct : (operations.map Operation.id).Nodup
  backward : ∀ (i : Nat) (operation : Operation), operations[i]? = some operation →
    ∀ id, operation.left = .reference id ∨ operation.right = .reference id →
      StandsBefore operations i id

theorem mem_references_iff {operation : Operation} {id : Id} :
    id ∈ operation.references ↔
      operation.left = .reference id ∨ operation.right = .reference id := by
  have isReference (operand : Operand) :
      operand.reference? = some id ↔ operand = .reference id := by
    cases operand <;> simp [Operand.reference?]
  simp [Operation.references, isReference, eq_comm]

theorem standsBefore_length {operations : List Operation} {id : Id} :
    StandsBefore operations operations.length id ↔ id ∈ operations.map Operation.id := by
  rw [List.mem_map]
  constructor
  · rintro ⟨j, earlier, -, stands, named⟩
    exact ⟨earlier, List.mem_of_getElem? stands, named⟩
  · rintro ⟨earlier, mem, named⟩
    obtain ⟨j, less, stands⟩ := List.getElem_of_mem mem
    exact ⟨j, earlier, less, List.getElem?_eq_some_iff.2 ⟨less, stands⟩, named⟩

/-- What is added at the end stands before nothing that was there. -/
theorem standsBefore_concat {operations : List Operation} {operation : Operation} {i : Nat}
    (inside : i ≤ operations.length) {id : Id} :
    StandsBefore (operations ++ [operation]) i id ↔ StandsBefore operations i id := by
  have same (j : Nat) (less : j < i) : (operations ++ [operation])[j]? = operations[j]? :=
    List.getElem?_append_left (by omega)
  constructor
  · rintro ⟨j, earlier, less, stands, named⟩
    exact ⟨j, earlier, less, by rwa [← same j less], named⟩
  · rintro ⟨j, earlier, less, stands, named⟩
    exact ⟨j, earlier, less, by rwa [same j less], named⟩

theorem isReady_concat {operations : List Operation} {operation : Operation} :
    IsReady [] (operations ++ [operation]) ↔
      IsReady [] operations ∧ (∀ id ∈ operation.references, id ∈ operations.map Operation.id) ∧
        operation.id ∉ operations.map Operation.id := by
  simp [isReady_append, IsReady]

@[simp] theorem isTopological_nil : IsTopological [] where
  distinct := List.nodup_nil
  backward := by simp

theorem isTopological_concat {operations : List Operation} {operation : Operation} :
    IsTopological (operations ++ [operation]) ↔
      IsTopological operations ∧
        (∀ id ∈ operation.references, id ∈ operations.map Operation.id) ∧
        operation.id ∉ operations.map Operation.id := by
  have last : (operations ++ [operation])[operations.length]? = some operation := by simp
  have ids : ((operations ++ [operation]).map Operation.id).Nodup ↔
      operation.id ∉ operations.map Operation.id ∧ (operations.map Operation.id).Nodup := by
    rw [List.map_append, List.map_singleton, ← List.concat_eq_append, List.nodup_concat]
  constructor
  · rintro ⟨distinct, backward⟩
    obtain ⟨fresh, distinct⟩ := ids.1 distinct
    refine ⟨⟨distinct, ?_⟩, ?_, fresh⟩
    · intro i each found id refers
      have inside : i < operations.length := (List.getElem?_eq_some_iff.1 found).1
      rw [← List.getElem?_append_left inside] at found
      exact (standsBefore_concat (Nat.le_of_lt inside)).1 (backward i each found id refers)
    · intro id refers
      have before := backward _ _ last id (mem_references_iff.1 refers)
      exact standsBefore_length.1 ((standsBefore_concat (Nat.le_refl _)).1 before)
  · rintro ⟨⟨distinct, backward⟩, within, fresh⟩
    refine ⟨ids.2 ⟨fresh, distinct⟩, ?_⟩
    intro i each found id refers
    have bound : i < (operations ++ [operation]).length := (List.getElem?_eq_some_iff.1 found).1
    rw [List.length_append, List.length_singleton, Nat.lt_succ_iff] at bound
    rw [standsBefore_concat bound]
    -- An index of the longer list leads into the shorter one, or to what was added.
    rcases Nat.lt_or_eq_of_le bound with inside | rfl
    · rw [List.getElem?_append_left inside] at found
      exact backward i each found id refers
    · obtain rfl := Option.some.inj (last.symm.trans found)
      exact standsBefore_length.2 (within id (mem_references_iff.2 refers))

theorem isReady_iff_isTopological {operations : List Operation} :
    IsReady [] operations ↔ IsTopological operations := by
  induction operations using List.reverseRecOn with
  | nil => exact ⟨fun _ => isTopological_nil, fun _ => trivial⟩
  | append_singleton operations operation ih => rw [isReady_concat, isTopological_concat, ih]

end OperationOrder

/-- An operand can be read if the result that it refers to is stored. -/
theorem Operand.exists_resolve_iff {operand : Operand} {results : Results} :
    (∃ value, operand.resolve results = .ok value) ↔
      ∀ id, operand = .reference id → (results id).isSome = true := by
  cases operand with
  | literal text => simp [resolve]
  | reference id => cases stored : results id <;> simp [resolve, stored]

/-- An operation is executed if both operands can be read and nothing is stored under its
identifier. -/
theorem Operation.execute_eq_ok_iff {operation : Operation} {results after : Results} :
    operation.execute results = .ok after ↔
      ∃ left right, operation.left.resolve results = .ok left ∧
        operation.right.resolve results = .ok right ∧ results operation.id = none ∧
        after = results.store operation.id
          (left.bind fun x => right.bind fun y => operation.kind.value? x y) := by
  unfold execute
  cases operation.left.resolve results <;> cases operation.right.resolve results <;>
    cases results operation.id <;> simp [eq_comm]

/-- Exactly the lists that are ready are executed to their end. -/
theorem exists_execute_iff_isReady {results : Results} {earlier : List Id}
    (same : ∀ id, (results id).isSome = true ↔ id ∈ earlier) (operations : List Operation) :
    (∃ after, execute results operations = .ok after) ↔
      OperationOrder.IsReady earlier operations := by
  induction operations generalizing results earlier with
  | nil => simp [execute, OperationOrder.IsReady]
  | cons operation rest ih =>
    have steps : (∃ after, execute results (operation :: rest) = .ok after) ↔
        ∃ next, operation.execute results = .ok next ∧ ∃ after, execute next rest = .ok after := by
      rw [execute]
      cases operation.execute results <;> simp
    have grown (value : Option Rat) (id : Id) :
        (results.store operation.id value id).isSome = true ↔ id ∈ operation.id :: earlier := by
      rw [List.mem_cons, ← same]
      by_cases own : id = operation.id
      · simp [own]
      · simp [own, Results.store_of_ne]
    have unused : results operation.id = none ↔ operation.id ∉ earlier := by
      rw [← same, Option.not_isSome_iff_eq_none]
    rw [steps, OperationOrder.IsReady]
    -- Each conjunct of `IsReady` is one of the two reasons to stop; the value that is stored is
    -- of no account, since `grown` holds of any.
    constructor
    · rintro ⟨next, executed, rest⟩
      obtain ⟨left, right, first, second, fresh, rfl⟩ := Operation.execute_eq_ok_iff.1 executed
      refine ⟨?_, unused.1 fresh, (ih (grown _)).1 rest⟩
      intro id refers
      rw [← same]
      rcases OperationOrder.mem_references_iff.1 refers with refers | refers
      · exact Operand.exists_resolve_iff.1 ⟨left, first⟩ id refers
      · exact Operand.exists_resolve_iff.1 ⟨right, second⟩ id refers
    · rintro ⟨within, fresh, ready⟩
      have stored (id : Id) (refers : operation.left = .reference id ∨
          operation.right = .reference id) : (results id).isSome = true :=
        (same id).2 (within id (OperationOrder.mem_references_iff.2 refers))
      obtain ⟨left, first⟩ := Operand.exists_resolve_iff.2 fun id refers => stored id (.inl refers)
      obtain ⟨right, second⟩ :=
        Operand.exists_resolve_iff.2 fun id refers => stored id (.inr refers)
      exact ⟨_, Operation.execute_eq_ok_iff.2 ⟨left, right, first, second, unused.2 fresh, rfl⟩,
        (ih (grown _)).2 ready⟩

/-- The order check accepts a list exactly if it is topological, and exactly if an executor that
has stored nothing yet runs it to its end. -/
theorem checkOrder_decides_execution (operations : List Operation) :
    (checkOrder operations = .ok () ↔ OperationOrder.IsTopological operations) ∧
    (checkOrder operations = .ok () ↔ ∃ results, execute .empty operations = .ok results) := by
  have nothing : ∀ id, (Results.empty id).isSome = true ↔ id ∈ ([] : List Id) := by
    simp [Results.empty]
  rw [exists_execute_iff_isReady nothing, ← OperationOrder.isReady_iff_isTopological]
  exact ⟨OperationOrder.checkOrder_eq_ok_iff, OperationOrder.checkOrder_eq_ok_iff⟩

end Stepwise
