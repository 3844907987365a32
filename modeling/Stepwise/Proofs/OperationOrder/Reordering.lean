import Stepwise.Proofs.Execution
import Stepwise.Proofs.Lowering.SingleTree
import Stepwise.Proofs.OperationOrder.Execution

/-!
# Any order of execution gives the same results

Several executors may share the work, and take operations in another order than the one in which
they were listed. As long as the order passes the check, the same results are stored
(`execute_of_perm`). What ties a result to its operation does not mention any order: it is what the
operation computes from the results that its operands refer to (`Results.Settles`). An execution
keeps what is stored and settles one operation after another, and along an order that passes the
check there is only one way to settle them all.
-/

namespace Stepwise

open OperationOrder (IsReady mem_references_iff)

namespace Results

/-- Whatever is stored before is stored after. -/
def Extends (after before : Results) : Prop :=
  ∀ id result, before id = some result → after id = some result

/-- The stored result of the operation is what it computes from the stored results that its operands
stand for. It is undefined if one of these is, or if the operation divides by zero. -/
def Settles (results : Results) (operation : Operation) : Prop :=
  ∃ left right, operation.left.resolve results = .ok left ∧
    operation.right.resolve results = .ok right ∧
    results operation.id =
      some (left.bind fun x => right.bind fun y => operation.kind.value? x y)

variable {before after first second : Results} {operation : Operation}

theorem Extends.resolve (h : after.Extends before) {operand : Operand} {value : Option Rat}
    (resolved : operand.resolve before = .ok value) : operand.resolve after = .ok value := by
  cases operand with
  | literal text => exact resolved
  | reference id =>
    rw [Operand.resolve] at resolved ⊢
    cases stored : before id with
    | none => simp [stored] at resolved
    | some result =>
      rw [stored] at resolved
      rw [h id result stored]
      exact resolved

/-- An operation that is settled stays so while results are added. -/
theorem Settles.mono (settled : before.Settles operation) (h : after.Extends before) :
    after.Settles operation := by
  obtain ⟨left, right, first, second, stored⟩ := settled
  exact ⟨left, right, h.resolve first, h.resolve second, h _ _ stored⟩

/-- Results that settle an operation agree on it if they agree on what it refers to. -/
theorem Settles.unique (settled : first.Settles operation) (settled' : second.Settles operation)
    (same : ∀ id ∈ operation.references, first id = second id) :
    first operation.id = second operation.id := by
  obtain ⟨left, right, onLeft, onRight, stored⟩ := settled
  obtain ⟨left', right', onLeft', onRight', stored'⟩ := settled'
  have sameLeft : operation.left.resolve first = operation.left.resolve second :=
    Operand.resolve_congr fun id refers => same id (mem_references_iff.2 (.inl refers))
  have sameRight : operation.right.resolve first = operation.right.resolve second :=
    Operand.resolve_congr fun id refers => same id (mem_references_iff.2 (.inr refers))
  obtain rfl : left = left' := Except.ok.inj (by rw [← onLeft, sameLeft, onLeft'])
  obtain rfl : right = right' := Except.ok.inj (by rw [← onRight, sameRight, onRight'])
  rw [stored, stored']

end Results

namespace Operation

variable {operation : Operation} {results after : Results}

/-- Executing an operation changes nothing that is stored. -/
theorem extends_of_execute (h : operation.execute results = .ok after) :
    after.Extends results := by
  obtain ⟨left, right, -, -, fresh, rfl⟩ := execute_eq_ok_iff.1 h
  intro id result stored
  have other : id ≠ operation.id := by
    rintro rfl
    rw [fresh] at stored
    cases stored
  rw [Results.store_of_ne _ _ other, stored]

/-- Executing an operation settles it. -/
theorem settles_of_execute (h : operation.execute results = .ok after) :
    after.Settles operation := by
  have kept := extends_of_execute h
  obtain ⟨left, right, first, second, -, rfl⟩ := execute_eq_ok_iff.1 h
  exact ⟨left, right, kept.resolve first, kept.resolve second, Results.store_self _ _ _⟩

end Operation

variable {operations order : List Operation} {results after : Results}

/-- Executing operations changes nothing that is stored. -/
theorem extends_of_execute (h : execute results operations = .ok after) :
    after.Extends results := by
  induction operations generalizing results with
  | nil => cases h; exact fun _ _ stored => stored
  | cons operation rest ih =>
    rw [execute] at h
    split at h
    next next executed =>
      intro id result stored
      exact ih h id result (Operation.extends_of_execute executed id result stored)
    next => cases h

/-- Executing operations settles them all, and stores nothing else. -/
theorem settles_of_execute (h : execute results operations = .ok after) :
    (∀ operation ∈ operations, after.Settles operation) ∧
      ∀ id, id ∉ operations.map Operation.id → after id = results id := by
  induction operations generalizing results with
  | nil => cases h; exact ⟨by simp, fun _ _ => rfl⟩
  | cons operation rest ih =>
    rw [execute] at h
    split at h
    next next executed =>
      obtain ⟨settled, others⟩ := ih h
      refine ⟨?_, ?_⟩
      · intro each mem
        rcases List.mem_cons.1 mem with rfl | inRest
        · exact (Operation.settles_of_execute executed).mono (extends_of_execute h)
        · exact settled each inRest
      · intro id outside
        rw [List.map_cons, List.mem_cons, not_or] at outside
        obtain ⟨left, right, -, -, -, rfl⟩ := Operation.execute_eq_ok_iff.1 executed
        rw [others id outside.2, Results.store_of_ne _ _ outside.1]
    next => cases h

/-- Along operations that are ready, results are settled in one way only. -/
theorem eq_of_settles {earlier : List Id} {first second : Results}
    (ready : IsReady earlier operations) (same : ∀ id ∈ earlier, first id = second id)
    (settled : ∀ operation ∈ operations, first.Settles operation)
    (settled' : ∀ operation ∈ operations, second.Settles operation) :
    ∀ id ∈ operations.map Operation.id, first id = second id := by
  induction operations generalizing earlier with
  | nil => simp
  | cons operation rest ih =>
    obtain ⟨within, -, ready⟩ := ready
    have here : first operation.id = second operation.id :=
      (settled operation List.mem_cons_self).unique (settled' operation List.mem_cons_self)
        fun id refers => same id (within id refers)
    have sameNext : ∀ id ∈ operation.id :: earlier, first id = second id :=
      List.forall_mem_cons.2 ⟨here, same⟩
    intro id mem
    rcases List.mem_cons.1 mem with rfl | inRest
    · exact here
    · exact ih ready sameNext (fun each mem => settled each (List.mem_cons_of_mem _ mem))
        (fun each mem => settled' each (List.mem_cons_of_mem _ mem)) id inRest

/-- Two orders of the same operations that are both ready store the same results. -/
theorem execute_perm (perm : order.Perm operations) (ready : IsReady [] operations)
    (readyOrder : IsReady [] order) :
    ∃ results, execute .empty operations = .ok results ∧ execute .empty order = .ok results := by
  have nothing : ∀ id, (Results.empty id).isSome = true ↔ id ∈ ([] : List Id) := by
    simp [Results.empty]
  obtain ⟨results, listed⟩ := (exists_execute_iff_isReady nothing operations).2 ready
  obtain ⟨others, reordered⟩ := (exists_execute_iff_isReady nothing order).2 readyOrder
  obtain ⟨settled, only⟩ := settles_of_execute listed
  obtain ⟨settled', only'⟩ := settles_of_execute reordered
  have same : results = others := by
    funext id
    by_cases known : id ∈ operations.map Operation.id
    · exact eq_of_settles ready (by simp) settled
        (fun each mem => settled' each (perm.mem_iff.2 mem)) id known
    · have unknown : id ∉ order.map Operation.id := mt (perm.map Operation.id).mem_iff.1 known
      rw [only id known, only' id unknown]
  exact ⟨results, listed, same ▸ reordered⟩

/-- The operations of an expression may be executed in any order that passes the check. Every such
order stores the same results as the order in which they are listed, each of them settled, and so
the expression comes to the same value, or to none. -/
theorem execute_of_perm {limit : Limit} {supply : Supply} {text : String}
    {decomposition : Decomposition} (decomposed : decompose limit supply text = .ok decomposition)
    (perm : order.Perm decomposition.operations) (accepted : checkOrder order = .ok ()) :
    ∃ results, execute .empty decomposition.operations = .ok results ∧
      execute .empty order = .ok results ∧
      (∀ operation ∈ decomposition.operations, results.Settles operation) ∧
      ∃ value, decomposition.result.resolve results = .ok value ∧
        decomposition.outcome = .ok value ∧
        { decomposition with operations := order }.outcome = .ok value := by
  have readyOrder := OperationOrder.checkOrder_eq_ok_iff.1 accepted
  obtain ⟨tree, rfl⟩ := stepTree_of_decompose decomposed
  -- An order that passes uses no identifier twice, so none was drawn twice.
  have distinct : supply.IsDistinct tree.size := by
    have once := (OperationOrder.isReady_iff_isTopological.1 readyOrder).distinct
    rw [(perm.map Operation.id).nodup_iff] at once
    rwa [tree.map_id_decomposition] at once
  have ready : IsReady [] (tree.decomposition supply).operations :=
    tree.isReady_operations 0 [] distinct fun _ _ => List.not_mem_nil
  obtain ⟨results, listed, reordered⟩ := execute_perm perm ready readyOrder
  have outcome := StepTree.outcome_decomposition distinct
  have resolved : (tree.decomposition supply).result.resolve results = .ok tree.toExpr.value? := by
    rw [← outcome, Decomposition.outcome, listed]
  refine ⟨results, listed, reordered, (settles_of_execute listed).1, tree.toExpr.value?, resolved,
    outcome, ?_⟩
  rw [Decomposition.outcome, reordered]
  exact resolved

/-- A sum and a quotient that is undefined, with the quotient ahead of the sum. -/
theorem execute_of_perm_quotient :
    let sum : Operation := .new ⟨1⟩ .addition (.literal "1") (.literal "2")
    let divisor : Operation := .new ⟨2⟩ .subtraction (.literal "4") (.literal "4")
    let quotient : Operation := .new ⟨3⟩ .division (.literal "3") (.reference ⟨2⟩)
    let product : Operation := .new ⟨4⟩ .multiplication (.reference ⟨1⟩) (.reference ⟨3⟩)
    let decomposition : Decomposition := ⟨[sum, divisor, quotient, product], .reference ⟨4⟩⟩
    let order : List Operation := [divisor, quotient, sum, product]
    decompose .standard (.counting ⟨1⟩) "(1+2)*(3/(4-4))" = .ok decomposition ∧
      order.Perm decomposition.operations ∧ checkOrder order = .ok () ∧
      ∃ results, execute .empty decomposition.operations = .ok results ∧
        execute .empty order = .ok results ∧
        (∀ operation ∈ decomposition.operations, results.Settles operation) ∧
        ∃ value, decomposition.result.resolve results = .ok value ∧
          decomposition.outcome = .ok value ∧
          { decomposition with operations := order }.outcome = .ok value := by
  intro sum divisor quotient product decomposition order
  have decomposed : decompose .standard (.counting ⟨1⟩) "(1+2)*(3/(4-4))" = .ok decomposition := by
    decide +kernel
  have perm : order.Perm decomposition.operations := by decide +kernel
  have accepted : checkOrder order = .ok () :=
    OperationOrder.checkOrder_eq_ok_iff.2 (by decide +kernel)
  exact ⟨decomposed, perm, accepted, execute_of_perm decomposed perm accepted⟩

end Stepwise
