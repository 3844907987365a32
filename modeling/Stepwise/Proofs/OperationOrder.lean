import Stepwise.OperationOrder

/-!
# What the order check accepts

A list of operations is ready when each operation refers only to identifiers that stand before it,
and its own identifier is not among these. Main statement here: the check accepts exactly the
lists that are ready (`OperationOrder.checkFrom_eq_ok_iff`), whatever identifiers it is told of.
-/

namespace Stepwise.OperationOrder

/-- Each operation can be executed when its turn comes, after the identifiers in `earlier` and
those of the operations before it. -/
def IsReady : (earlier : List Id) → List Operation → Prop
  | _, [] => True
  | earlier, operation :: rest =>
    (∀ id ∈ operation.references, id ∈ earlier) ∧ operation.id ∉ earlier ∧
      IsReady (operation.id :: earlier) rest

instance decidableIsReady : (earlier : List Id) → (operations : List Operation) →
    Decidable (IsReady earlier operations)
  | _, [] => .isTrue trivial
  | earlier, operation :: rest =>
    have := decidableIsReady (operation.id :: earlier) rest
    inferInstanceAs (Decidable ((∀ id ∈ operation.references, id ∈ earlier) ∧
      operation.id ∉ earlier ∧ IsReady (operation.id :: earlier) rest))

theorem isReady_append {earlier : List Id} {before after : List Operation} :
    IsReady earlier (before ++ after) ↔
      IsReady earlier before ∧ IsReady ((before.map Operation.id).reverse ++ earlier) after := by
  induction before generalizing earlier with
  | nil => simp [IsReady]
  | cons operation rest ih => simp [IsReady, ih, and_assoc]

/-- In a list that is ready, an operation refers to identifiers that stand before it. -/
theorem IsReady.mem_before {earlier : List Id} {before after : List Operation}
    {operation : Operation} (h : IsReady earlier (before ++ operation :: after)) {id : Id}
    (refers : id ∈ operation.references) : id ∈ before.map Operation.id ∨ id ∈ earlier := by
  obtain ⟨-, within, -⟩ := isReady_append.1 h
  have found := within id refers
  rwa [List.mem_append, List.mem_reverse] at found

theorem firstMissing?_eq_none_iff {stored : Std.HashMap Id Nat} {references : List Id} :
    firstMissing? stored references = none ↔ ∀ id ∈ references, id ∈ stored := by
  simp [firstMissing?]

theorem notMem_of_firstMissing? {stored : Std.HashMap Id Nat} {references : List Id} {id : Id}
    (h : firstMissing? stored references = some id) : id ∈ references ∧ id ∉ stored := by
  have missing := List.find?_some h
  exact ⟨List.mem_of_find?_eq_some h, by simpa using missing⟩

/-- The check accepts exactly the lists that are ready. -/
theorem checkFrom_eq_ok_iff {known : Std.HashSet Id} {index : Nat} {stored : Std.HashMap Id Nat}
    {earlier : List Id} (same : ∀ id, id ∈ stored ↔ id ∈ earlier) (operations : List Operation) :
    checkFrom known index stored operations = .ok () ↔ IsReady earlier operations := by
  induction operations generalizing index stored earlier with
  | nil => simp [checkFrom, IsReady]
  | cons operation rest ih =>
    rw [checkFrom, IsReady]
    cases missing : firstMissing? stored operation.references with
    | some id =>
      obtain ⟨refers, absent⟩ := notMem_of_firstMissing? missing
      have stuck : ¬∀ id ∈ operation.references, id ∈ earlier := fun all =>
        absent ((same id).2 (all id refers))
      dsimp only
      constructor
      · intro h
        split at h <;> cases h
      · intro h
        exact absurd h.1 stuck
    | none =>
      have within : ∀ id ∈ operation.references, id ∈ earlier := fun id refers =>
        (same id).1 (firstMissing?_eq_none_iff.1 missing id refers)
      dsimp only
      split
      next first found =>
        have used : operation.id ∈ stored := by
          rw [Std.HashMap.mem_iff_isSome_getElem?, found]; rfl
        constructor
        · intro h
          cases h
        · intro h
          exact absurd ((same _).1 used) h.2.1
      next fresh =>
        have unused : operation.id ∉ earlier := by
          rw [← same, Std.HashMap.mem_iff_isSome_getElem?, fresh]; simp
        have grown : ∀ id,
            id ∈ stored.insert operation.id index ↔ id ∈ operation.id :: earlier := by
          intro id
          rw [Std.HashMap.mem_insert, List.mem_cons, same, beq_iff_eq, eq_comm]
        rw [ih grown]
        exact ⟨fun ready => ⟨within, unused, ready⟩, fun h => h.2.2⟩

theorem checkOrder_eq_ok_iff {operations : List Operation} :
    checkOrder operations = .ok () ↔ IsReady [] operations :=
  checkFrom_eq_ok_iff (by simp) operations

end Stepwise.OperationOrder
